import DiceCup.Proofs.Notation.Limits
import DiceCup.Random.Tape
import DiceCup.Roll.Throw

/-!
# Rolling the terms in a line

An expression is a tree, and it is rolled as one.  Adding outcomes is associative, so the tree does
not show in the outcome: `roll_eq_rollLine` says that rolling an expression is rolling its terms from
left to right, with each outcome added on the right of those before it.  Expressions with the same
terms are therefore rolled the same from every source, however they are nested.
-/

namespace DiceCup

open Notation

variable {σ : Type} [DieSource σ]

/-- Roll one more term, and add its outcome on the right of what was rolled before. -/
def Outcome.rollNext
    (outcome : Outcome)
    (term : Term) :
    StateM σ Outcome := do
  return outcome.merge (← term.roll)

/-- Roll terms from left to right, starting from the outcome in which nothing happened. -/
def rollLine
    (terms : List Term) :
    StateM σ Outcome :=
  terms.foldlM Outcome.rollNext Outcome.empty

/-- Rolling the terms of an expression in a line behind an outcome adds its roll to the outcome. -/
theorem foldlM_rollNext
    (expression : Expression)
    (outcome : Outcome) :
    expression.terms.foldlM Outcome.rollNext outcome =
      (do return outcome.merge (← expression.roll) : StateM σ Outcome) := by
  induction expression generalizing outcome with
  | single term =>
      rw [Expression.terms_single, List.foldlM_cons]
      rfl
  | combine left right leftHypothesis rightHypothesis =>
      rw [Expression.terms_combine, List.foldlM_append, leftHypothesis]
      simp only [rightHypothesis, Expression.roll, bind_assoc, pure_bind, Outcome.merge_assoc]

theorem roll_eq_rollLine
    (expression : Expression) :
    (expression.roll : StateM σ Outcome) = rollLine expression.terms := by
  rw [rollLine, foldlM_rollNext]
  simp only [Outcome.empty_merge, bind_pure]

/-- Only the terms of an expression matter to its roll. -/
theorem roll_eq_of_terms_eq
    {first second : Expression}
    (same : first.terms = second.terms) :
    (first.roll : StateM σ Outcome) = second.roll := by
  rw [roll_eq_rollLine, roll_eq_rollLine, same]

/--
From every source a roll is the roll of its terms in a line.  Expressions with the same terms give
the same outcome and leave the same source, and so does what is read back from the written form,
which is read back unless it is outside the limits.
-/
theorem roll_nesting
    (expression : Expression) :
    (∀ source : σ, expression.roll.run source = (rollLine expression.terms).run source) ∧
      (∀ other : Expression,
        other.terms = expression.terms →
          ∀ source : σ, other.roll.run source = expression.roll.run source) ∧
      ((∃ readBack : Expression,
          parse expression.render = .ok [readBack] ∧
            ∀ source : σ, readBack.roll.run source = expression.roll.run source) ∨
        (¬ Readable [expression] ∧
          ∃ error : NotationError, parse expression.render = .error error)) := by
  refine ⟨fun source => by rw [roll_eq_rollLine], ?_, ?_⟩
  · intro other same source
    rw [roll_eq_of_terms_eq same]
  · rcases parse_render_cases expression with ⟨-, parsed⟩ | outside
    · left
      refine ⟨expression.rightLeaning, parsed, fun source => ?_⟩
      rw [roll_eq_of_terms_eq expression.terms_rightLeaning]
    · exact Or.inr outside

/-- A six-sided, a four-sided and a six-sided die, the first two of them in a pair. -/
def leftPair :
    Expression :=
  .combine (.combine (.single sixSided) (.single fourSided)) (.single sixSided)

/-- The same dice, the last two of them in a pair. -/
def rightPair :
    Expression :=
  .combine (.single sixSided) (.combine (.single fourSided) (.single sixSided))

/-- It does not show in a roll which dice are paired. -/
theorem roll_nesting_pairs :
    rightPair.terms = leftPair.terms ∧
      rightPair.roll.run (Tape.ofWords [7, 8, 9]) = leftPair.roll.run (Tape.ofWords [7, 8, 9]) := by
  have same : rightPair.terms = leftPair.terms := rfl
  exact ⟨same, (roll_nesting leftPair).2.1 rightPair same (Tape.ofWords [7, 8, 9])⟩

end DiceCup
