import DiceCup.Proofs.Notation.Refusal
import Mathlib.Data.List.DropRight

/-!
# Text that can still be finished

A notation that is refused because something is missing, or because something else comes behind it,
is refused at the end of what can still become a notation.  The text in front of something else is a
notation already, and the text in front of something missing becomes one when a sample of that is
written there, its limits apart (`viable_of_parse`).

Where something is missing, each stage knows what finishes its own tokens (`Stuck`), and a stage
around it puts what it has taken in front (`Stuck.behind`).
-/

namespace DiceCup

open Text Notation

/-- A text that can stand where something is missing. -/
def Wanted.sample :
    Wanted → String
  | .dieMark => "d6"
  | .sides => "6"

namespace Notation

open Grammar

/-! ## Notations but for their limits -/

/-- What becomes of a text that is written as the grammar asks for, within the limits or not. -/
inductive Viable : Except NotationError (List Expression) → Prop where
  | accepted (expressions : List Expression) : Viable (.ok expressions)
  | tooMany (position : Nat) (quantity : Quantity) : Viable (.error (.tooMany position quantity))
  | invalidDie (position : Nat) (fault : Term.Fault) : Viable (.error (.invalidDie position fault))

theorem viable_of_roll
    {text : String}
    {written : List WrittenGroup}
    (roll : Roll (tokens (lowered text)) written) :
    Viable (parse text) := by
  rcases parse_of_roll roll with ⟨within, accepted⟩ | ⟨error, refused, breaks⟩
  · rw [accepted]
    exact .accepted _
  · rw [refused]
    rcases breaks with ⟨group, -, breaks⟩ | ⟨⟨place, rfl⟩, -⟩
    · cases error with
      | tooMany position quantity => exact .tooMany position quantity
      | invalidDie position fault => exact .invalidDie position fault
      | missing => exact breaks.elim
      | trailing => exact breaks.elim
    · exact .tooMany place .expressions

/-! ## Where a sample can be written -/

/-- A text that ends with a digit ends with a number. -/
theorem getLast?_tokens
    {text : List Char}
    {last : Char}
    (member : last ∈ text.getLast?)
    (digit : last.isDigit = true) :
    ∃ run : List Char, (tokens text).getLast? = some (.digits run) := by
  obtain ⟨others, rfl⟩ := List.getLast?_eq_some_iff.mp member
  let front := (others ++ [last]).rdropWhile Char.isDigit
  have run :
      (others ++ [last]).rtakeWhile Char.isDigit = others.rtakeWhile Char.isDigit ++ [last] :=
    List.rtakeWhile_concat_pos Char.isDigit others last digit
  have digits : (others.rtakeWhile Char.isDigit ++ [last]).all Char.isDigit = true := by
    rw [← run, List.all_eq_true]
    exact fun _ among => List.mem_rtakeWhile_imp among
  have apart : Apart front (others.rtakeWhile Char.isDigit ++ [last]) := by
    intro other otherMember otherDigit
    obtain ⟨nonempty, rfl⟩ := List.mem_getLast?_eq_getLast otherMember
    exact (List.rdropWhile_last_not Char.isDigit _ nonempty otherDigit).elim
  refine ⟨others.rtakeWhile Char.isDigit ++ [last], ?_⟩
  rw [← List.rdropWhile_append_rtakeWhile (p := Char.isDigit) (l := others ++ [last]), run,
    tokens_append apart, tokens_digits (List.concat_ne_nil _ _) digits, List.getLast?_concat]

/-- No number runs from a text into a sample that it goes on with. -/
theorem apart_sample
    {text : List Char}
    {wanted : Wanted}
    (behindMark : wanted = .sides → (tokens text).getLast? = some (.mark 'd')) :
    Apart text (lowered wanted.sample) := by
  intro last lastMember digit first firstMember
  cases wanted with
  | dieMark =>
      have small : lowered Wanted.dieMark.sample = ['d', '6'] := by decide +kernel
      rw [small, List.head?_cons, Option.mem_some_iff] at firstMember
      rw [← firstMember]
      decide
  | sides =>
      obtain ⟨run, ends⟩ := getLast?_tokens lastMember digit
      rw [behindMark rfl] at ends
      cases ends

/-! ## Where something is missing -/

/--
A refusal because something is missing behind some tokens, which a sample of it makes into what a
rule writes.
-/
inductive Stuck
    (Written : List Token → Prop)
    (cursor : Cursor) :
    NotationError → Prop where
  | missing
      {used : List Token}
      {here : Cursor}
      {wanted : Wanted}
      (leads : cursor.Leads here)
      (ahead : tokens cursor.rest = used ++ tokens here.rest)
      (behindMark : wanted = .sides → used.getLast? = some (.mark 'd'))
      (written : Written (used ++ tokens (lowered wanted.sample))) :
      Stuck Written cursor (.missing here.skipBlanks.offset wanted)

/-- What is taken before comes in front of what is taken then. -/
theorem Stuck.behind
    {Near Far : List Token → Prop}
    {cursor later : Cursor}
    {taken : List Token}
    {error : NotationError}
    (stuck : Stuck Near later error)
    (leads : cursor.Leads later)
    (ahead : tokens cursor.rest = taken ++ tokens later.rest)
    (further : ∀ {used : List Token}, Near used → Far (taken ++ used)) :
    Stuck Far cursor error := by
  cases stuck with
  | missing leadsHere aheadHere behindMark written =>
      have whole := further written
      rw [← List.append_assoc] at whole
      refine .missing (leads.trans leadsHere) ?_ ?_ whole
      · rw [ahead, aheadHere, List.append_assoc]
      · intro same
        rw [List.getLast?_append, behindMark same]
        rfl

/-- Behind a number of dice the mark of a die is missing, and behind the mark its sides. -/
theorem stuck_of_die
    {cursor : Cursor}
    {position : Nat}
    {wanted : Wanted}
    (refused : DieRefused cursor (.missing position wanted)) :
    Stuck (fun used => ∃ (first : WrittenTerm) (others : List WrittenTerm), Dice used first others)
      cursor (.missing position wanted) := by
  have six : Uint [.digits ['6']] 6 := .digits rfl
  cases refused with
  | dieMark countWritten leads ahead =>
      have sample : tokens (lowered Wanted.dieMark.sample) = [.mark 'd', .digits ['6']] := by
        decide +kernel
      refine .missing leads ahead nofun ?_
      rw [sample]
      have dice := Dice.last (.die countWritten six) .absent
      rw [List.append_nil] at dice
      exact ⟨_, _, dice⟩
  | @sides countTokens _ here countWritten leads ahead =>
      have sample : tokens (lowered Wanted.sides.sample) = [.digits ['6']] := by
        decide +kernel
      have dice := Dice.last (.die countWritten six) .absent
      rw [List.append_nil, List.append_cons, ← sample] at dice
      rw [List.append_cons] at ahead
      exact .missing leads ahead (fun _ => List.getLast?_concat) ⟨_, _, dice⟩

/-- A chain in which something is missing is finished where its last die is. -/
theorem stuck_of_chain
    {position place : Nat}
    {cursor : Cursor}
    {wanted : Wanted}
    (refused : ChainRefused position cursor (.missing place wanted)) :
    Stuck (fun used => ∃ (first : WrittenTerm) (others : List WrittenTerm), Dice used first others)
      cursor (.missing place wanted) := by
  cases refused with
  | die inside _ refused =>
      obtain ⟨taken, joined, ahead⟩ := inside.joined
      apply (stuck_of_die refused).behind inside.leads ahead
      rintro used ⟨first, others, dice⟩
      exact joined.dice dice

theorem stuck_of_group
    {room place : Nat}
    {cursor : Cursor}
    {wanted : Wanted}
    (refused : GroupRefused room cursor (.missing place wanted)) :
    Stuck (fun used => ∃ group : WrittenGroup, Group used group) cursor (.missing place wanted) := by
  cases refused with
  | chain repeated _ leads refused =>
      obtain ⟨front, ahead, further⟩ := repeated.exists_front
      apply (stuck_of_chain refused).behind leads ahead
      rintro used ⟨first, others, dice⟩
      exact further dice

/-! ## Behind other groups -/

/-- Tokens that the loop over the groups has taken, behind which other groups can be written. -/
structure Passed
    (text : List Char)
    (taken : List Token)
    (cursor : Cursor) :
    Prop where
  leads : (Cursor.ofText text).Leads cursor
  ahead : tokens text = taken ++ tokens cursor.rest
  further {used : List Token} {others : List WrittenGroup} :
    Roll used others → ∃ written : List WrittenGroup, Roll (taken ++ used) written

/-- A turn of the loop takes a group and the semicolon behind it. -/
theorem Turn.passed
    {text : List Char}
    {taken : List Token}
    {start next : List Expression × Cursor}
    (turn : Turn start next)
    (passed : Passed text taken start.2) :
    ∃ used : List Token, Passed text (taken ++ used) next.2 := by
  cases turn with
  | @group before cursor afterGroup afterMark repeats expression read more =>
      have found : (afterGroup.literal [';']).1 = true := by rw [more]
      have here : afterMark = (afterGroup.literal [';']).2 := by rw [more]
      have leadsMark :=
        (leads_of_group read).trans (Cursor.Leads.literal (by decide : Cursor.IsMark ';') _)
      obtain ⟨groupTokens, group, -, groupWritten, -, -, groupAhead⟩ := written_of_group read
      rw [Cursor.mark_of_literal (by decide) found, List.append_cons] at groupAhead
      dsimp only at passed ⊢
      rw [here]
      refine ⟨groupTokens ++ [.mark ';'], passed.leads.trans leadsMark, ?_, ?_⟩
      · rw [passed.ahead, groupAhead, ← List.append_assoc]
      · intro used others roll
        obtain ⟨written, whole⟩ := passed.further (.more groupWritten roll)
        rw [List.append_cons, ← List.append_assoc] at whole
        exact ⟨written, whole⟩

theorem passed_of_turns
    {text : List Char}
    {before : List Expression}
    {cursor : Cursor}
    (turns : Turns text before cursor) :
    ∃ taken : List Token, Passed text taken cursor := by
  refine turns.holds (fun state => ∃ taken : List Token, Passed text taken state.2) ?_ ?_
  · exact ⟨[], Cursor.Leads.refl _, rfl, fun roll => ⟨_, roll⟩⟩
  · rintro start next turn ⟨taken, passed⟩
    obtain ⟨used, further⟩ := turn.passed passed
    exact ⟨_, further⟩

/-- Groups in which something is missing are finished where the last one is. -/
theorem stuck_of_groups
    {text : List Char}
    {place : Nat}
    {wanted : Wanted}
    (refused : groups [] (Cursor.ofText text) = .error (.missing place wanted)) :
    Stuck (fun used => ∃ written : List WrittenGroup, Roll used written)
      (Cursor.ofText text) (.missing place wanted) := by
  obtain ⟨before, cursor, turns, refusedGroup⟩ := exists_turns_of_refused refused
  obtain ⟨taken, passed⟩ := passed_of_turns turns
  apply (stuck_of_group (refused_of_group refusedGroup)).behind passed.leads passed.ahead
  rintro used ⟨group, written⟩
  exact passed.further (.last written)

/-! ## Whole notations -/

/-- A text is a notation up to what is refused behind its last group. -/
theorem parse_front_of_groups
    {text : String}
    {expressions : List Expression}
    {next : Cursor}
    (read : groups [] (Cursor.ofText (lowered text)) = .ok (expressions, next)) :
    ∃ front back : String,
      text = front ++ back ∧
        next.skipBlanks.offset = front.utf8ByteSize ∧
        parse front = .ok expressions := by
  obtain ⟨front, back, splits, offset, frontTokens, -⟩ :=
    exists_splits (Cursor.rest_ofText (lowered text)) (leads_of_groups read)
  obtain ⟨used, written, valid, roll, means, ahead⟩ := written_of_groups read
  have few := length_le_maxExpressions (Nat.zero_le _) read
  rw [List.nil_append] at means
  rw [means, length_meaning] at few
  rw [frontTokens, List.append_cancel_right_eq] at ahead
  rw [← ahead] at roll
  refine ⟨front, back, splits.text_eq, ?_, ?_⟩
  · rw [offset, Cursor.offset_ofText, Nat.zero_add]
  · rcases parse_of_roll roll with ⟨within, accepted⟩ | ⟨error, -, breaks⟩
    · rw [accepted, means]
    · exact (not_breaksLimit_of_within ⟨valid, few⟩ breaks).elim

/-- With a sample where something is missing, a text is a notation but for its limits. -/
theorem viable_of_stuck
    {text : String}
    {place : Nat}
    {wanted : Wanted}
    (stuck :
      Stuck (fun used => ∃ written : List WrittenGroup, Roll used written)
        (Cursor.ofText (lowered text)) (.missing place wanted)) :
    ∃ front back : String,
      text = front ++ back ∧
        place = front.utf8ByteSize ∧
        Viable (parse (front ++ wanted.sample)) := by
  cases stuck with
  | missing leads ahead behindMark written =>
      obtain ⟨written, roll⟩ := written
      obtain ⟨front, back, splits, offset, frontTokens, -⟩ :=
        exists_splits (Cursor.rest_ofText (lowered text)) leads
      rw [frontTokens, List.append_cancel_right_eq] at ahead
      rw [← ahead] at behindMark roll
      refine ⟨front, back, splits.text_eq, ?_, ?_⟩
      · rw [offset, Cursor.offset_ofText, Nat.zero_add]
      · rw [← tokens_append (apart_sample behindMark), ← lowered_append] at roll
        exact viable_of_roll roll

/--
Text is refused where it stops being a notation.  In front of what comes behind the last group there
is a notation, and where something is missing, a sample of that makes what comes in front of it a
notation but for its limits.  The sample of a die has six sides, and the sample of its sides is six.
-/
theorem viable_of_parse
    (text : String) :
    (∀ (position : Nat) (found : String),
        parse text = .error (.trailing position found) →
          ∃ front back : String,
            text = front ++ back ∧
              position = front.utf8ByteSize ∧
              ∃ expressions : List Expression, parse front = .ok expressions) ∧
      (∀ (position : Nat) (wanted : Wanted),
        parse text = .error (.missing position wanted) →
          ∃ front back : String,
            text = front ++ back ∧
              position = front.utf8ByteSize ∧
              Viable (parse (front ++ wanted.sample))) ∧
      (Wanted.dieMark.describe, Wanted.dieMark.sample) = ("'d'", "d6") ∧
      (Wanted.sides.describe, Wanted.sides.sample) = ("number of sides", "6") := by
  refine ⟨?_, ?_, rfl, rfl⟩
  · intro position found refused
    rcases refused_of_parse refused with inside | ⟨expressions, next, read, -, same⟩
    · have agree := lead_groups [] (Cursor.ofText (lowered text))
      rw [inside] at agree
      obtain ⟨_, _, moved⟩ := agree.of_error
      cases moved
    · cases same
      obtain ⟨front, back, text_eq, offset, accepted⟩ := parse_front_of_groups read
      exact ⟨front, back, text_eq, offset, expressions, accepted⟩
  · intro position wanted refused
    rcases refused_of_parse refused with inside | ⟨_, _, _, _, same⟩
    · exact viable_of_stuck (stuck_of_groups inside)
    · cases same

/-- A sign without a number ends a notation, and a number behind the repetitions needs its mark. -/
theorem viable_of_parse_lone_sign :
    parse "2D6 + & d4" = .error (.trailing 4 "+ & d4") ∧
      (∃ front back : String,
        "2D6 + & d4" = front ++ back ∧
          4 = front.utf8ByteSize ∧
          ∃ expressions : List Expression, parse front = .ok expressions) ∧
      parse "2x 3 ; d4" = .error (.missing 5 .dieMark) ∧
      ∃ front back : String,
        "2x 3 ; d4" = front ++ back ∧
          5 = front.utf8ByteSize ∧
          Viable (parse (front ++ "d6")) := by
  have trailing : parse "2D6 + & d4" = .error (.trailing 4 "+ & d4") := by
    have small : lowered "2D6 + & d4" = ['2', 'd', '6', ' ', '+', ' ', '&', ' ', 'd', '4'] := by
      decide +kernel
    rw [parse_eq, small, groups_eq, group_eq, chain_eq]
    rfl
  have missing : parse "2x 3 ; d4" = .error (.missing 5 .dieMark) := by
    have small : lowered "2x 3 ; d4" = ['2', 'x', ' ', '3', ' ', ';', ' ', 'd', '4'] := by
      decide +kernel
    rw [parse_eq, small, groups_eq, group_eq, chain_eq]
    rfl
  have finished := (viable_of_parse "2x 3 ; d4").2.1 5 .dieMark missing
  simp only [Wanted.sample] at finished
  exact ⟨trailing, (viable_of_parse "2D6 + & d4").1 4 "+ & d4" trailing, missing, finished⟩

end Notation

end DiceCup
