import DiceCup.Text.Numeral

/-!
# Dice terms

A term `3d8-5` rolls a number of dice with the same number of sides and adds a bonus to their sum.
Every term is within the limits by its type; `Term.make` is the only way in from plain words, and
its faults say which limit a rejected triple breaks.
-/

namespace DiceCup

/-- Most dice that one expression rolls, and so most dice of one term. -/
def maxDice : Nat :=
  10000

/-- `count` dice with `sides` faces each, and a `bonus` added to their sum. -/
@[ext]
structure Term where
  count : Nat
  sides : Nat
  bonus : Int
  count_pos : 0 < count
  count_le : count ≤ maxDice
  two_le_sides : 2 ≤ sides
  sides_lt : sides < UInt32.size
  le_bonus : Int32.minValue.toInt ≤ bonus
  bonus_le : bonus ≤ Int32.maxValue.toInt
  deriving DecidableEq

namespace Term

/-- Why three numbers make no term. -/
inductive Fault where
  /-- There is no die to roll. -/
  | noDice
  /-- A die needs two sides. -/
  | tooFewSides (sides : UInt32)
  /-- There are more than `maxDice` dice. -/
  | tooManyDice (count : UInt32)
  deriving DecidableEq

/-- What is told about a fault. -/
def Fault.message :
    Fault → String
  | .noDice => "number of dice must be greater than 0"
  | .tooFewSides sides => s!"number of sides must be greater than 1, got {sides.toNat}"
  | .tooManyDice count => s!"at most {maxDice} dice can be rolled at once, got {count.toNat}"

/--
The term with the given numbers.  The number of dice is looked at before the number of sides, and
numbers outside the limits are refused, never moved inside them.
-/
def make
    (count sides : UInt32)
    (bonus : Int32) :
    Except Fault Term :=
  if some_dice : 0 < count.toNat then
    if few_dice : count.toNat ≤ maxDice then
      if some_sides : 2 ≤ sides.toNat then
        .ok {
          count := count.toNat
          sides := sides.toNat
          bonus := bonus.toInt
          count_pos := some_dice
          count_le := few_dice
          two_le_sides := some_sides
          sides_lt := sides.toNat_lt
          le_bonus := bonus.minValue_le_toInt
          bonus_le := bonus.toInt_le }
      else
        .error (.tooFewSides sides)
    else
      .error (.tooManyDice count)
  else
    .error .noDice

/-- The written form of a term; the number of dice is always written, a bonus of zero never. -/
def render
    (term : Term) :
    String :=
  toString term.count ++ "d" ++ toString term.sides ++ Text.signedSuffix term.bonus

theorem sides_pos
    (term : Term) :
    0 < term.sides :=
  Nat.lt_of_lt_of_le Nat.zero_lt_two term.two_le_sides

/-- A term that is made has the numbers it was made from. -/
theorem make_eq_ok_iff
    {count sides : UInt32}
    {bonus : Int32}
    {term : Term} :
    make count sides bonus = .ok term ↔
      term.count = count.toNat ∧ term.sides = sides.toNat ∧ term.bonus = bonus.toInt := by
  have count_pos := term.count_pos
  have count_le := term.count_le
  have two_le_sides := term.two_le_sides
  constructor
  · intro made
    unfold make at made
    split at made <;> try contradiction
    split at made <;> try contradiction
    split at made <;> try contradiction
    cases made
    exact ⟨rfl, rfl, rfl⟩
  · rintro ⟨count_eq, sides_eq, bonus_eq⟩
    rw [count_eq] at count_pos count_le
    rw [sides_eq] at two_le_sides
    rw [make, dif_pos count_pos, dif_pos count_le, dif_pos two_le_sides, Except.ok.injEq]
    exact Term.ext count_eq.symm sides_eq.symm bonus_eq.symm

/-- Every term is made from its own numbers. -/
theorem make_self
    (term : Term) :
    make
        (UInt32.ofNatLT term.count
          (Nat.lt_of_le_of_lt term.count_le (by decide)))
        (UInt32.ofNatLT term.sides term.sides_lt)
        (Int32.ofIntLE term.bonus term.le_bonus term.bonus_le) =
      .ok term := by
  rw [make_eq_ok_iff]
  simp

end Term

end DiceCup
