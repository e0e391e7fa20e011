/-!
# Numerals

Numbers are written in ASCII decimal digits.  This module gives a run of digits its value, fits
values into machine words, and writes the signed suffix that stands after a die or a list of faces.
-/

namespace DiceCup.Text

/-- The value of a run of decimal digits; zeros in front change nothing. -/
def digitsValue
    (digits : List Char) :
    Nat :=
  Nat.ofDigitChars 10 digits 0

/-- The value of a text that is a run of at least one ASCII digit, and of no other text. -/
def natural?
    (text : List Char) :
    Option Nat :=
  if text ≠ [] ∧ text.all Char.isDigit = true then some (digitsValue text) else none

/-- A number as an unsigned word of 32 bits, if it fits. -/
def toUInt32?
    (value : Nat) :
    Option UInt32 :=
  if fits : value < UInt32.size then some (UInt32.ofNatLT value fits) else none

/-- A number as an unsigned word of 64 bits, if it fits. -/
def toUInt64?
    (value : Nat) :
    Option UInt64 :=
  if fits : value < UInt64.size then some (UInt64.ofNatLT value fits) else none

/-- A number as a signed word of 32 bits, if it fits. -/
def toInt32?
    (value : Int) :
    Option Int32 :=
  if fits : Int32.minValue.toInt ≤ value ∧ value ≤ Int32.maxValue.toInt then
    some (Int32.ofIntLE value fits.1 fits.2)
  else
    none

/-- A number to be added, with its sign: zero is left out, and a minus is part of the numeral. -/
def signedSuffix
    (value : Int) :
    String :=
  if value = 0 then "" else if 0 < value then "+" ++ toString value else toString value

@[simp]
theorem natural?_nil :
    natural? [] = none :=
  rfl

/-- A numeral is read as its value. -/
theorem natural?_eq_some_iff
    {text : List Char}
    {value : Nat} :
    natural? text = some value ↔
      text ≠ [] ∧ text.all Char.isDigit = true ∧ digitsValue text = value := by
  unfold natural?
  split
  next numeral => simp [numeral.1, numeral.2]
  next other =>
    constructor
    · intro impossible
      cases impossible
    · intro numeral
      exact absurd ⟨numeral.1, numeral.2.1⟩ other

/-- Printed numbers are read back. -/
theorem natural?_toDigits
    (value : Nat) :
    natural? (Nat.toDigits 10 value) = some value := by
  rw [natural?_eq_some_iff]
  refine ⟨Nat.toDigits_ne_nil, ?_, ?_⟩
  · rw [List.all_eq_true]
    intro char member
    exact Nat.isDigit_of_mem_toDigits (by decide) (by decide) member
  · exact Nat.ofDigitChars_toDigits (by decide) (by decide)

theorem toUInt32?_eq_some_iff
    {value : Nat}
    {word : UInt32} :
    toUInt32? value = some word ↔ word.toNat = value := by
  unfold toUInt32?
  split
  next fits =>
    rw [Option.some_inj]
    constructor
    · intro equality
      rw [← equality, UInt32.toNat_ofNatLT]
    · intro equality
      apply UInt32.toNat.inj
      rw [UInt32.toNat_ofNatLT, equality]
  next tooLarge =>
    constructor
    · intro impossible
      cases impossible
    · intro equality
      exact absurd (equality ▸ word.toNat_lt) tooLarge

theorem toInt32?_eq_some_iff
    {value : Int}
    {word : Int32} :
    toInt32? value = some word ↔ word.toInt = value := by
  unfold toInt32?
  split
  next fits =>
    rw [Option.some_inj]
    constructor
    · intro equality
      rw [← equality, Int32.toInt_ofIntLE]
    · intro equality
      apply Int32.toInt.inj
      rw [Int32.toInt_ofIntLE, equality]
  next outside =>
    constructor
    · intro impossible
      cases impossible
    · intro equality
      have lower := word.minValue_le_toInt
      have upper := word.toInt_le
      exact absurd (equality ▸ ⟨lower, upper⟩) outside

end DiceCup.Text
