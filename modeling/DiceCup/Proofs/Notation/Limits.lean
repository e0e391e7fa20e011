import DiceCup.Proofs.Notation.Rendering
import DiceCup.Proofs.Notation.Semicolon
import Mathlib.Logic.Relation

/-!
# What a notation can stand for

Whatever the parser returns is within the published limits, and each of its expressions leans to the
right.  The dice and the terms are limited one expression at a time.  The expressions are limited for
a notation as a whole, so that limit is an invariant of the loop over the groups: `Turn` is one turn
of the loop, `Turn.length_le` is what a turn keeps, and `length_le_of_turns` is what any number of
turns keeps.  The room that is left for the next group is therefore never a negative number.
-/

namespace DiceCup

open Text Notation

/-! ## Nesting -/

namespace Expression

/-- Every pair of an expression has a single term on its left. -/
inductive LeansRight : Expression → Prop where
  | single
      (term : Term) :
      LeansRight (.single term)
  | combine
      (term : Term)
      {right : Expression}
      (leans : LeansRight right) :
      LeansRight (.combine (.single term) right)

theorem leansRight_ofTerms
    (first : Term)
    (others : List Term) :
    (ofTerms first others).LeansRight := by
  induction others generalizing first with
  | nil => exact .single first
  | cons second others inductionHypothesis =>
      exact .combine first (inductionHypothesis second)

theorem leansRight_rightLeaning
    (expression : Expression) :
    expression.rightLeaning.LeansRight :=
  leansRight_ofTerms _ _

theorem diceCount_pos
    (expression : Expression) :
    0 < expression.diceCount := by
  induction expression with
  | single term =>
      rw [diceCount_single]
      exact term.count_pos
  | combine left right leftPositive _ =>
      rw [diceCount_combine]
      exact Nat.add_pos_left leftPositive _

end Expression

namespace Notation

/-! ## The loop over the groups -/

/--
One turn of the loop over the groups: with the expressions read so far, a group is read at the
cursor, and a semicolon behind it.
-/
inductive Turn : List Expression × Cursor → List Expression × Cursor → Prop where
  | group
      {before : List Expression}
      {cursor afterGroup afterMark : Cursor}
      {repeats : Nat}
      {expression : Expression}
      (read :
        Notation.group (maxExpressions - before.length) cursor =
          .ok (repeats, expression, afterGroup))
      (more : afterGroup.literal [';'] = (true, afterMark)) :
      Turn (before, cursor) (before ++ List.replicate repeats expression, afterMark)

/-- The states that the loop over the groups of a text comes to, in front of each of its groups. -/
def Turns
    (text : List Char)
    (before : List Expression)
    (cursor : Cursor) :
    Prop :=
  Relation.ReflTransGen Turn ([], Cursor.ofText text) (before, cursor)

namespace Turn

variable {start next : List Expression × Cursor}

/-- A turn does not read more expressions than a notation may stand for. -/
theorem length_le
    (turn : Turn start next)
    (few : start.1.length ≤ maxExpressions) :
    next.1.length ≤ maxExpressions := by
  cases turn with
  | group read more => exact length_le_of_group read few

/-- The loop goes on where a turn leaves it. -/
theorem groups_eq
    (turn : Turn start next) :
    groups start.1 start.2 = groups next.1 next.2 := by
  cases turn with
  | group read more =>
      rw [Notation.groups_eq, read]
      simp only [more, if_true]

end Turn

variable
  {text : List Char}
  {before : List Expression}
  {cursor : Cursor}

/-- What holds at the start of a text and is kept by every turn holds wherever the loop comes. -/
theorem Turns.holds
    (Holds : List Expression × Cursor → Prop)
    (turns : Turns text before cursor)
    (start : Holds ([], Cursor.ofText text))
    (step : ∀ {state next : List Expression × Cursor}, Turn state next → Holds state → Holds next) :
    Holds (before, cursor) := by
  unfold Turns at turns
  generalize (before, cursor) = state at turns ⊢
  induction turns with
  | refl => exact start
  | tail _ turn held => exact step turn held

/-- No number of turns reads more expressions than a notation may stand for. -/
theorem length_le_of_turns
    (turns : Turns text before cursor) :
    before.length ≤ maxExpressions :=
  turns.holds (fun state => state.1.length ≤ maxExpressions) (Nat.zero_le maxExpressions)
    fun turn few => turn.length_le few

/-- What is read from the start of a text is read from any state that its loop comes to. -/
theorem groups_eq_of_turns
    (turns : Turns text before cursor) :
    groups [] (Cursor.ofText text) = groups before cursor :=
  turns.holds (fun state => groups [] (Cursor.ofText text) = groups state.1 state.2) rfl
    fun turn same => same.trans turn.groups_eq

/-! ## The limits -/

/--
What a notation stands for is within the published limits and leans to the right.  While it is read,
accepted or not, the loop over its groups never holds more expressions than there is room for,
neither in front of a group nor behind it.
-/
theorem parse_within_limits
    (text : String) :
    (∀ expressions : List Expression,
        parse text = .ok expressions →
          expressions.length ≤ 1000 ∧
            ∀ expression ∈ expressions,
              expression.LeansRight ∧
                (1 ≤ expression.terms.length ∧ expression.terms.length ≤ 100) ∧
                (1 ≤ expression.diceCount ∧ expression.diceCount ≤ 10000) ∧
                ∀ term ∈ expression.terms,
                  (1 ≤ term.count ∧ term.count ≤ 10000) ∧
                    (2 ≤ term.sides ∧ term.sides < UInt32.size) ∧
                    (Int32.minValue.toInt ≤ term.bonus ∧ term.bonus ≤ Int32.maxValue.toInt)) ∧
      ∀ (before : List Expression) (cursor : Cursor),
        Turns (lowered text) before cursor →
          groups [] (Cursor.ofText (lowered text)) = groups before cursor ∧
            before.length ≤ maxExpressions ∧
            ∀ (repeats : Nat) (expression : Expression) (next : Cursor),
              group (maxExpressions - before.length) cursor = .ok (repeats, expression, next) →
                (before ++ List.replicate repeats expression).length ≤ maxExpressions := by
  constructor
  · intro expressions parsed
    obtain ⟨readable, leaning⟩ := readable_of_parse parsed
    refine ⟨readable.length_le, ?_⟩
    intro expression member
    have leans : expression.LeansRight := by
      rw [← leaning] at member
      obtain ⟨original, -, rfl⟩ := List.mem_map.mp member
      exact original.leansRight_rightLeaning
    have someTerms : 1 ≤ expression.terms.length :=
      List.length_pos_iff.mpr expression.terms_ne_nil
    refine ⟨leans, ⟨someTerms, readable.terms_le expression member⟩,
      ⟨expression.diceCount_pos, readable.dice_le expression member⟩, ?_⟩
    intro term _
    exact ⟨⟨term.count_pos, term.count_le⟩, ⟨term.two_le_sides, term.sides_lt⟩,
      ⟨term.le_bonus, term.bonus_le⟩⟩
  · intro before cursor turns
    have few := length_le_of_turns turns
    exact ⟨groups_eq_of_turns turns, few, fun _ _ _ read => length_le_of_group read few⟩

/-- One die with six sides. -/
def sixSided :
    Term :=
  WrittenTerm.term ⟨1, 6, 0⟩ ⟨by decide, by decide, by decide⟩

/-- One die with four sides. -/
def fourSided :
    Term :=
  WrittenTerm.term ⟨1, 4, 0⟩ ⟨by decide, by decide, by decide⟩

theorem parse_sixSided :
    parse "d6" = .ok [.single sixSided] := by
  have small : lowered "d6" = ['d', '6'] := by
    decide +kernel
  rw [parse_eq, small, groups_eq, group_eq, chain_eq]
  rfl

theorem parse_two_sixSided :
    parse "2x d6" = .ok [.single sixSided, .single sixSided] := by
  have small : lowered "2x d6" = ['2', 'x', ' ', 'd', '6'] := by
    decide +kernel
  rw [parse_eq, small, groups_eq, group_eq, chain_eq]
  rfl

/-- A group that is repeated zero times comes behind two expressions and adds none. -/
theorem parse_within_limits_zero_times :
    parse "2Xd6;0xd4" = .ok [.single sixSided, .single sixSided] ∧
      [Expression.single sixSided, .single sixSided].length ≤ 1000 ∧
      (Expression.single sixSided).diceCount ≤ 10000 ∧
      Turns (lowered "2Xd6;0xd4") [.single sixSided, .single sixSided]
        ⟨5, ['0', 'x', 'd', '4']⟩ ∧
      [Expression.single sixSided, .single sixSided].length ≤ maxExpressions ∧
      group (maxExpressions - [Expression.single sixSided, .single sixSided].length)
          ⟨5, ['0', 'x', 'd', '4']⟩ =
        .ok (0, .single fourSided, ⟨9, []⟩) ∧
      ([Expression.single sixSided, .single sixSided] ++
          List.replicate 0 (Expression.single fourSided)).length ≤ maxExpressions := by
  have small : lowered "2Xd6;0xd4" = ['2', 'x', 'd', '6', ';', '0', 'x', 'd', '4'] := by
    decide +kernel
  have first :
      group (maxExpressions - ([] : List Expression).length)
          (Cursor.ofText (lowered "2Xd6;0xd4")) =
        .ok (2, .single sixSided, ⟨4, [';', '0', 'x', 'd', '4']⟩) := by
    rw [small, group_eq, chain_eq]
    rfl
  have second :
      group (maxExpressions - [Expression.single sixSided, .single sixSided].length)
          ⟨5, ['0', 'x', 'd', '4']⟩ =
        .ok (0, .single fourSided, ⟨9, []⟩) := by
    rw [group_eq, chain_eq]
    rfl
  have turn :
      Turn ([], Cursor.ofText (lowered "2Xd6;0xd4"))
        ([.single sixSided, .single sixSided], ⟨5, ['0', 'x', 'd', '4']⟩) :=
    .group first rfl
  have turns :
      Turns (lowered "2Xd6;0xd4") [.single sixSided, .single sixSided]
        ⟨5, ['0', 'x', 'd', '4']⟩ :=
    .single turn
  have parsed : parse "2Xd6;0xd4" = .ok [.single sixSided, .single sixSided] := by
    rw [parse_eq, turn.groups_eq, groups_eq, second]
    rfl
  have limits := (parse_within_limits "2Xd6;0xd4").1 _ parsed
  have room := (parse_within_limits "2Xd6;0xd4").2 _ _ turns
  exact ⟨parsed, limits.1, (limits.2 _ List.mem_cons_self).2.2.1.2, turns, room.2.1, second,
    room.2.2 _ _ _ second⟩

end Notation

end DiceCup
