import DiceCup.Proofs.Roll.Line
import DiceCup.Proofs.Text.Decoding
import DiceCup.Session.Basic

/-!
# Reading result lines back

A result line shows an expression and its outcome, and leaves out what is zero or does not matter: a
bonus or a modifier of zero, and how the terms are nested.  Everything else is read back by decoders
that are put together as the line is, part by part.  No part can be taken for a part of its neighbour,
since each one ends in front of a character that could not go on it.

So a line tells the terms and the outcome (`Session.decode_resultLine`), whatever numbers they have
and however many they are.
-/

namespace DiceCup

open Text

namespace Term

/-- The term with the given numbers, if they are within its limits. -/
def ofNumbers?
    (count sides : Nat)
    (bonus : Int) :
    Option Term := do
  let count ← toUInt32? count
  let sides ← toUInt32? sides
  let bonus ← toInt32? bonus
  (make count sides bonus).toOption

theorem ofNumbers?_self
    (term : Term) :
    ofNumbers? term.count term.sides term.bonus = some term := by
  have count : toUInt32? term.count = some term.written.count :=
    toUInt32?_eq_some_iff.mpr term.toNat_count_written
  have sides : toUInt32? term.sides = some term.written.sides :=
    toUInt32?_eq_some_iff.mpr UInt32.toNat_ofNatLT
  have bonus : toInt32? term.bonus = some term.written.bonus :=
    toInt32?_eq_some_iff.mpr term.toInt_bonus_written
  have made : make term.written.count term.written.sides term.written.bonus = .ok term :=
    term.make_self
  rw [ofNumbers?, count, sides, bonus]
  simp only [bind, Option.bind_some, made, Except.toOption]

/-- Take a term off. -/
def decoder :
    Decoder Term := do
  let count ← Decoder.natural
  Decoder.literal "d"
  let sides ← Decoder.natural
  let bonus ← Decoder.suffix
  ofNumbers? count sides bonus

theorem reads_decoder
    (term : Term) :
    decoder.Reads term.render.toList term NoNumber := by
  have text :
      term.render.toList =
        Nat.toDigits 10 term.count ++
          ("d".toList ++ (Nat.toDigits 10 term.sides ++ (signedSuffix term.bonus).toList)) := by
    simp only [render, String.toList_append, toList_toString_nat, List.append_assoc]
  rw [text]
  refine .bind (Decoder.reads_natural term.count) ?_
    (.literal (.bind (Decoder.reads_natural term.sides) ?_
      ((Decoder.reads_suffix term.bonus).check term.ofNumbers?_self)))
  · rintro rest - char ⟨⟩
    rfl
  · intro rest ends
    exact Decoder.noDigit_signedSuffix_append term.bonus ends

end Term

/-! ## Expressions -/

namespace Expression

/-- An expression is written as its terms, with ampersands between them. -/
theorem render_eq_intercalate
    (expression : Expression) :
    expression.render = " & ".intercalate (expression.terms.map Term.render) := by
  induction expression with
  | single term => rw [render, terms_single, List.map_singleton, String.intercalate_singleton]
  | combine left right leftHypothesis rightHypothesis =>
      have leftNonempty : left.terms.map Term.render ≠ [] := by
        simpa using left.terms_ne_nil
      have rightNonempty : right.terms.map Term.render ≠ [] := by
        simpa using right.terms_ne_nil
      rw [render, leftHypothesis, rightHypothesis, terms_combine, List.map_append,
        String.intercalate_append_of_ne_nil leftNonempty rightNonempty]

/-- Take the terms of an expression off. -/
def termsDecoder :
    Decoder (List Term) :=
  Decoder.separatedBy " & " Term.decoder

/-- The terms of an expression are read where no further term is joined. -/
theorem reads_termsDecoder
    (expression : Expression) :
    termsDecoder.Reads expression.render.toList expression.terms fun rest =>
      NoNumber rest ∧ ¬ " & ".toList <+: rest := by
  obtain ⟨first, others, shape⟩ := List.exists_cons_of_ne_nil expression.terms_ne_nil
  have text :
      expression.render.toList =
        " & ".toList.intercalate (expression.terms.map fun term => term.render.toList) := by
    rw [render_eq_intercalate, String.toList_intercalate, List.map_map]
    rfl
  rw [text, shape]
  refine .separatedBy (by decide) ?_ first others fun term _ => term.reads_decoder
  rintro rest char ⟨⟩
  exact ⟨rfl, by decide, by decide⟩

end Expression

/-! ## Outcomes -/

namespace Outcome

/-- Take the faces off that stand between the brackets, or none. -/
def facesDecoder :
    Decoder (List Nat) :=
  Decoder.separatedBy ", " Decoder.natural <|> pure []

/-- Faces are read in front of the closing bracket. -/
theorem reads_facesDecoder
    (faces : List Nat) :
    facesDecoder.Reads (String.intercalate ", " (faces.map toString)).toList faces fun rest =>
      rest.head? = some ']' := by
  cases faces with
  | nil =>
      refine .orElse_right (fun rest closes => ?_) (.pure [] _)
      -- Without a face the bracket comes at once, and no number starts with it.
      obtain ⟨others, rfl⟩ := List.head?_eq_some_iff.mp closes
      rw [StateT.run, Decoder.separatedBy]
      rfl
  | cons first others =>
      have text :
          (String.intercalate ", " ((first :: others).map toString)).toList =
            ", ".toList.intercalate ((first :: others).map (Nat.toDigits 10)) := by
        have digits : String.toList ∘ toString = Nat.toDigits 10 :=
          funext toList_toString_nat
        rw [String.toList_intercalate, List.map_map, digits]
      rw [text]
      refine Decoder.Reads.orElse_left (.mono (.separatedBy (by decide) ?_ first others
        fun face _ => Decoder.reads_natural face) ?_)
      · rintro rest char ⟨⟩
        rfl
      · intro rest closes
        obtain ⟨others, rfl⟩ := List.head?_eq_some_iff.mp closes
        refine ⟨?_, ?_⟩
        · rintro char ⟨⟩
          rfl
        · rintro ⟨after, text⟩
          cases text

/-- The outcome with the given numbers, as they are written. -/
def ofNumbers
    (total : Int)
    (faces : List Nat)
    (modifier : Int) :
    Outcome where
  total := Int64.ofInt total
  modifier := Int64.ofInt modifier
  rolls := faces.toArray

theorem ofNumbers_self
    (outcome : Outcome) :
    ofNumbers outcome.total.toInt outcome.rolls.toList outcome.modifier.toInt = outcome := by
  simp only [ofNumbers, Int64.ofInt_toInt, Array.toArray_toList]

/-- Take an outcome off. -/
def decoder :
    Decoder Outcome := do
  let total ← Decoder.integer
  Decoder.literal "  <= "
  Decoder.literal "["
  let faces ← facesDecoder
  Decoder.literal "]"
  let modifier ← Decoder.suffix
  return ofNumbers total faces modifier

theorem reads_decoder
    (outcome : Outcome) :
    decoder.Reads outcome.render.toList outcome NoNumber := by
  have text :
      outcome.render.toList =
        (toString outcome.total.toInt).toList ++
          ("  <= ".toList ++ ("[".toList ++
            ((String.intercalate ", " (outcome.rolls.toList.map toString)).toList ++
              ("]".toList ++ (signedSuffix outcome.modifier.toInt).toList)))) := by
    simp only [render, renderFaces, String.toList_append, List.append_assoc]
  have modifier :=
    (Decoder.reads_suffix outcome.modifier.toInt).map
      (ofNumbers outcome.total.toInt outcome.rolls.toList)
  rw [ofNumbers_self] at modifier
  rw [text]
  refine .bind (Decoder.reads_integer outcome.total.toInt) ?_
    (.literal (.literal (.bind (reads_facesDecoder outcome.rolls.toList) ?_ (.literal modifier))))
  · rintro rest - char ⟨⟩
    rfl
  · intro rest _
    rfl

end Outcome

/-! ## Lines -/

namespace Session

/-- Take a result line off: the terms of its expression, and its outcome. -/
def lineDecoder :
    Decoder (List Term × Outcome) := do
  let terms ← Expression.termsDecoder
  Decoder.literal "  =>  "
  let outcome ← Outcome.decoder
  return (terms, outcome)

/-- A line is decoded as what it shows. -/
theorem decode_line
    (expression : Expression)
    (outcome : Outcome) :
    lineDecoder.decode (resultLine expression outcome) = some (expression.terms, outcome) := by
  have reads :
      lineDecoder.Reads (resultLine expression outcome).toList (expression.terms, outcome)
        NoNumber := by
    simp only [resultLine, String.toList_append, List.append_assoc]
    refine .bind expression.reads_termsDecoder ?_ (.literal (outcome.reads_decoder.map _))
    intro rest _
    refine ⟨?_, ?_⟩
    · rintro char ⟨⟩
      exact ⟨rfl, by decide, by decide⟩
    · rintro ⟨after, text⟩
      cases text
  apply reads.decode
  rintro char ⟨⟩

/--
A result line can be read back.  It gives the terms of the expression with all their numbers, and the
outcome with its total, its modifier and its faces.  So two lines are the same exactly if their terms
and their outcomes are: only the nesting of the terms does not show.
-/
theorem decode_resultLine
    (expression other : Expression)
    (outcome result : Outcome) :
    lineDecoder.decode (resultLine expression outcome) = some (expression.terms, outcome) ∧
      (resultLine expression outcome = resultLine other result ↔
        expression.terms = other.terms ∧ outcome = result) := by
  refine ⟨decode_line expression outcome, ?_, ?_⟩
  · intro same
    have first := decode_line expression outcome
    rw [same, decode_line] at first
    obtain ⟨terms, outcomes⟩ := Prod.mk.inj (Option.some.inj first)
    exact ⟨terms.symm, outcomes.symm⟩
  · rintro ⟨terms, rfl⟩
    rw [resultLine, resultLine, Expression.render_eq_intercalate, terms,
      ← Expression.render_eq_intercalate]

end Session

end DiceCup
