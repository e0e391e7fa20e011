import DiceCup.Text.Numeral

/-!
# Outcomes of a roll

An outcome is every face that was thrown, in order, together with the bonuses that are added to
them.  Outcomes are put together from left to right; joining them is associative, and the outcome
in which nothing happened changes nothing.  Sums are words of 64 bits.
-/

namespace DiceCup

/-- The faces of a roll in the order they were thrown, the sum of the bonuses, and the total. -/
@[ext]
structure Outcome where
  total : Int64
  modifier : Int64
  rolls : Array Nat
  deriving DecidableEq

namespace Outcome

/-- The outcome of adding a number without throwing a die. -/
def ofModifier
    (modifier : Int64) :
    Outcome where
  total := modifier
  modifier := modifier
  rolls := #[]

/-- The outcome in which nothing is thrown and nothing is added. -/
def empty : Outcome :=
  ofModifier 0

/-- Throw one more die. -/
def push
    (outcome : Outcome)
    (face : Nat) :
    Outcome :=
  { outcome with
    total := outcome.total + Int64.ofNat face
    rolls := outcome.rolls.push face }

/-- Add two outcomes together; the faces of the left one come first. -/
def merge
    (left right : Outcome) :
    Outcome where
  total := left.total + right.total
  modifier := left.modifier + right.modifier
  rolls := left.rolls ++ right.rolls

/-- The written form of some faces. -/
def renderFaces
    (faces : List Nat) :
    String :=
  "[" ++ String.intercalate ", " (faces.map toString) ++ "]"

/-- The written form of an outcome: the total, and what it is made of. -/
def render
    (outcome : Outcome) :
    String :=
  toString outcome.total.toInt ++ "  <= " ++ renderFaces outcome.rolls.toList ++
    Text.signedSuffix outcome.modifier.toInt

/-! ## Joining outcomes -/

theorem merge_assoc
    (first second third : Outcome) :
    (first.merge second).merge third = first.merge (second.merge third) := by
  simp [merge, Int64.add_assoc, Array.append_assoc]

@[simp]
theorem empty_merge
    (outcome : Outcome) :
    empty.merge outcome = outcome := by
  simp [merge, empty, ofModifier]

@[simp]
theorem merge_empty
    (outcome : Outcome) :
    outcome.merge empty = outcome := by
  simp [merge, empty, ofModifier]

/-- A die thrown after two outcomes are joined belongs to the right one. -/
theorem push_merge
    (left right : Outcome)
    (face : Nat) :
    (left.merge right).push face = left.merge (right.push face) := by
  simp [merge, push, Int64.add_assoc]

end Outcome

end DiceCup
