/-!
# Blank characters

Blanks may stand between any two parts of a dice notation, around a name and around a line of a
file.  They are the characters with the Unicode property `White_Space`, which is wider than the
handful of ASCII characters that core calls whitespace.
-/

namespace DiceCup.Text

/-- Whether a character has the Unicode property `White_Space`. -/
def isBlank
    (char : Char) :
    Bool :=
  let point := char.toNat
  (0x9 ≤ point && point ≤ 0xD) || point == 0x20 || point == 0x85 || point == 0xA0 ||
    point == 0x1680 || (0x2000 ≤ point && point ≤ 0x200A) || point == 0x2028 ||
    point == 0x2029 || point == 0x202F || point == 0x205F || point == 0x3000

/-- The blanks as one arithmetic condition on the code point. -/
theorem isBlank_iff
    {char : Char} :
    isBlank char = true ↔
      (9 ≤ char.toNat ∧ char.toNat ≤ 13) ∨ char.toNat = 32 ∨ char.toNat = 133 ∨
        char.toNat = 160 ∨ char.toNat = 5760 ∨
        (8192 ≤ char.toNat ∧ char.toNat ≤ 8202) ∨ char.toNat = 8232 ∨ char.toNat = 8233 ∨
        char.toNat = 8239 ∨ char.toNat = 8287 ∨ char.toNat = 12288 := by
  simp [isBlank, or_assoc]

/-- A text without the blanks at its start. -/
def dropBlanks
    (text : List Char) :
    List Char :=
  text.dropWhile isBlank

/-- A text without the blanks at its start and at its end. -/
def trimBlanks
    (text : List Char) :
    List Char :=
  (dropBlanks (dropBlanks text).reverse).reverse

/-- A text that does not start with a blank loses nothing. -/
theorem dropBlanks_eq_self
    {text : List Char}
    (unblank : ∀ char ∈ text.head?, isBlank char = false) :
    dropBlanks text = text := by
  cases text with
  | nil => rfl
  | cons first rest =>
    have visible : isBlank first = false := unblank first rfl
    simp [dropBlanks, visible]

/-- What is left after the blanks does not start with one. -/
theorem isBlank_head_dropBlanks
    (text : List Char) :
    ∀ char ∈ (dropBlanks text).head?, isBlank char = false := by
  intro char member
  have visible := List.head?_dropWhile_not isBlank text
  simp only [dropBlanks, Option.mem_def] at member
  simpa [member] using visible

/-- Blanks are dropped once and for all. -/
@[simp]
theorem dropBlanks_dropBlanks
    (text : List Char) :
    dropBlanks (dropBlanks text) = dropBlanks text :=
  dropBlanks_eq_self (isBlank_head_dropBlanks text)

end DiceCup.Text
