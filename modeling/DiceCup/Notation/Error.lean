import DiceCup.Dice.Term
import DiceCup.Text.Quoted

/-!
# Why a notation is refused

A refused notation has one cause, with the place in the text where it shows.  The wording of the
messages is kept here, apart from the parser that finds the causes.
-/

namespace DiceCup

/-- Most terms that one expression joins. -/
def maxTerms : Nat :=
  100

/-- Most expressions that one notation stands for. -/
def maxExpressions : Nat :=
  1000

/-- What a notation must hold at a place where it holds something else. -/
inductive Wanted where
  /-- The letter between the number of dice and the number of sides. -/
  | dieMark
  /-- The number of sides of a die. -/
  | sides
  deriving DecidableEq

/-- How the missing part is named. -/
def Wanted.describe :
    Wanted → String
  | .dieMark => "'d'"
  | .sides => "number of sides"

/-- What a notation can ask for too much of. -/
inductive Quantity where
  /-- Expressions that the notation stands for. -/
  | expressions
  /-- Dice that one expression rolls. -/
  | dice
  /-- Terms that one expression joins. -/
  | terms
  deriving DecidableEq

/-- How the quantity is named. -/
def Quantity.describe :
    Quantity → String
  | .expressions => "expressions"
  | .dice => "dice in one expression"
  | .terms => "terms joined with '&'"

/-- The most that is allowed of the quantity. -/
def Quantity.limit :
    Quantity → Nat
  | .expressions => maxExpressions
  | .dice => maxDice
  | .terms => maxTerms

/-- Why a notation is refused, with the place in bytes from its start. -/
inductive NotationError where
  /-- Something that has to come next is missing. -/
  | missing (position : Nat) (wanted : Wanted)
  /-- The notation is over, and the text is not. -/
  | trailing (position : Nat) (found : String)
  /-- There is too much of something. -/
  | tooMany (position : Nat) (quantity : Quantity)
  /-- A die is written whose numbers make no term. -/
  | invalidDie (position : Nat) (fault : Term.Fault)
  deriving DecidableEq

namespace NotationError

/-- The place of the error, in bytes from the start of the notation. -/
def position :
    NotationError → Nat
  | .missing position _ => position
  | .trailing position _ => position
  | .tooMany position _ => position
  | .invalidDie position _ => position

/-- What is told about the error, on one line. -/
def message :
    NotationError → String
  | .missing position wanted => s!"expected {wanted.describe} at position {position}"
  | .trailing position found => s!"unexpected input {Text.quote found} at position {position}"
  | .tooMany position quantity =>
    s!"too many {quantity.describe} at position {position}, at most {quantity.limit} allowed"
  | .invalidDie position fault => s!"invalid die at position {position}: {fault.message}"

end NotationError

end DiceCup
