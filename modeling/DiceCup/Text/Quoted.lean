import DiceCup.Text.DefaultIgnorable
import DiceCup.Text.GraphemeExtend
import DiceCup.Text.Unprintable

/-!
# Quoted text

Text that is shown inside a message is put between double quotes, on one line, and so that every
character can be told from its neighbours.  Six characters have a short spelling of their own; any
other character that would not show up by itself is spelled by the number of its code point.
-/

namespace DiceCup.Text

/-- The spelling of a character by the number of its code point, in lower-case hexadecimal. -/
def spellPoint
    (char : Char) :
    List Char :=
  ['\\', 'u', '\x7b'] ++ Nat.toDigits 16 char.toNat ++ ['\x7d']

/--
Whether a character would not show up by itself: it joins the one before it, it is ignored, or it
has no printed form.
-/
def isHidden
    (char : Char) :
    Bool :=
  isJoined char || isDefaultIgnorable char || isUnprintable char

/-- The spelling of one character between the quotes. -/
def spell
    (char : Char) :
    List Char :=
  if char = '\x00' then ['\\', '0']
  else if char = '\t' then ['\\', 't']
  else if char = '\r' then ['\\', 'r']
  else if char = '\n' then ['\\', 'n']
  else if char = '"' then ['\\', '"']
  else if char = '\\' then ['\\', '\\']
  else if isHidden char then spellPoint char
  else [char]

/-- A text between double quotes, each of its characters spelled out. -/
def quoteChars
    (text : List Char) :
    List Char :=
  '"' :: text.flatMap spell ++ ['"']

/-- A text between double quotes, each of its characters spelled out. -/
def quote
    (text : String) :
    String :=
  String.ofList (quoteChars text.toList)

/-- Quoting spells a text character by character. -/
theorem toList_quote
    (text : String) :
    (quote text).toList = '"' :: text.toList.flatMap spell ++ ['"'] := by
  simp [quote, quoteChars]

/-- No character is spelled by nothing. -/
theorem spell_ne_nil
    (char : Char) :
    spell char ≠ [] := by
  unfold spell spellPoint
  repeat' split
  all_goals simp

end DiceCup.Text
