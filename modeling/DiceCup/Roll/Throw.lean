import DiceCup.Dice.Expression
import DiceCup.Notation.Parser
import DiceCup.Random.Die
import DiceCup.Roll.Outcome

/-!
# Rolling dice

A term throws its dice one after another; an expression rolls its left side before its right side
and adds the two outcomes.  The dice are therefore thrown in the order in which the terms are
written.
-/

namespace DiceCup

variable {σ : Type} [DieSource σ]

/-- Throw a number of equal dice after what was thrown before. -/
def Outcome.throwDice
    (sides : Nat) :
    Nat → Outcome → StateM σ Outcome
  | 0, outcome => pure outcome
  | count + 1, outcome => do
    let face ← DieSource.throw sides
    throwDice sides count (outcome.push face)

/-- Roll the dice of a term. -/
def Term.roll
    (term : Term) :
    StateM σ Outcome :=
  Outcome.throwDice term.sides term.count (Outcome.ofModifier (Int64.ofInt term.bonus))

/-- Roll an expression, its left side first. -/
def Expression.roll :
    Expression → StateM σ Outcome
  | .single term => term.roll
  | .combine left right => do
    let first ← left.roll
    let second ← right.roll
    return first.merge second

/-- Roll expressions one after another. -/
def rollEach
    (expressions : List Expression) :
    StateM σ (List Outcome) :=
  expressions.mapM Expression.roll

/-- Roll what a notation stands for; nothing is drawn for a notation that is refused. -/
def roll
    (text : String) :
    StateM σ (Except NotationError (List Outcome)) :=
  match parse text with
  | .error error => pure (.error error)
  | .ok expressions => .ok <$> rollEach expressions

/-- A notation is rolled as what it stands for. -/
theorem run_roll_of_parse
    {text : String}
    {expressions : List Expression}
    (parsed : parse text = .ok expressions)
    (source : σ) :
    let rolled := (rollEach expressions).run source
    (roll text).run source = (.ok rolled.1, rolled.2) := by
  rw [roll, parsed]
  rfl

end DiceCup
