import DiceCup.Random.Source

/-!
# Throwing one die

A word of 32 bits is scaled to the number of sides: the whole part of the product chooses the face.
Words whose product falls outside a window are drawn again, and the window is as wide as to hold
the same number of words for every face.
-/

namespace DiceCup

namespace Face

/-- How far the number of sides can be doubled before it outgrows a word. -/
def doublings
    (sides : Nat) :
    Nat :=
  31 - sides.log2

/-- The number of sides, doubled as often as a word has room for. -/
def window
    (sides : Nat) :
    Nat :=
  sides <<< doublings sides

/-- Whether a word chooses a face fairly, so that it need not be drawn again. -/
def accepts
    (sides : Nat)
    (word : UInt32) :
    Bool :=
  word.toNat * sides % UInt32.size < window sides

/-- The face that a word chooses. -/
def ofWord
    (sides : Nat)
    (word : UInt32) :
    Nat :=
  1 + word.toNat * sides / UInt32.size

/-- Throw a die. -/
def throw
    {σ : Type}
    [WordSource σ]
    (sides : Nat) :
    StateM σ Nat := do
  return ofWord sides (← WordSource.first (accepts sides))

/-- Every word chooses one of the faces, whether it chooses fairly or not. -/
theorem ofWord_mem
    {sides : Nat}
    (positive : 0 < sides)
    (word : UInt32) :
    1 ≤ ofWord sides word ∧ ofWord sides word ≤ sides := by
  have small : word.toNat * sides < UInt32.size * sides :=
    Nat.mul_lt_mul_of_pos_right word.toNat_lt positive
  have quotient : word.toNat * sides / UInt32.size < sides :=
    Nat.div_lt_of_lt_mul small
  constructor
  · exact Nat.le_add_right 1 _
  · rw [ofWord, Nat.add_comm]
    exact quotient

/-- A thrown die shows one of its faces, whatever the source. -/
theorem throw_mem
    {σ : Type}
    [WordSource σ]
    {sides : Nat}
    (positive : 0 < sides)
    (source : σ) :
    1 ≤ ((throw sides).run source).1 ∧ ((throw sides).run source).1 ≤ sides :=
  ofWord_mem positive _

end Face

end DiceCup
