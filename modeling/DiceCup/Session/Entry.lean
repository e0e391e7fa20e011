import DiceCup.Text.Blank
import DiceCup.Text.Split

/-!
# Entries

An entry is a notation that may have a name, written `name=notation`.  The notation is what follows
the last equals sign, so a name can hold equals signs and a notation cannot.
-/

namespace DiceCup

/-- A notation to be rolled, and the name that is printed above its results. -/
structure Entry where
  name : Option String
  text : String
  deriving DecidableEq

namespace Entry

/-- Read an entry; blanks around the name do not count, the notation is left as it is. -/
def ofString
    (entry : String) :
    Entry :=
  match Text.splitLast '=' entry.toList with
  | none => { name := none, text := entry }
  | some (name, text) =>
    { name := some (String.ofList (Text.trimBlanks name)), text := String.ofList text }

/-- What is rolled when nothing is asked for. -/
def quickRolls : List String :=
  ["d4", "d6", "d8", "d10", "d12", "d20", "d100"]

/-- The entries, or the quick rolls if there are none. -/
def orQuickRolls
    (entries : List String) :
    List String :=
  if entries.isEmpty then quickRolls else entries

end Entry

end DiceCup
