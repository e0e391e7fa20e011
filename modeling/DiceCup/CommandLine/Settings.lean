import DiceCup.CommandLine.Argument
import DiceCup.Text.Numeral

/-!
# What a command line asks for

The settings of a run: the entries to roll, a file with more of them, a seed, how often every entry
is rolled, and whether single dice are reported.  Values come as text and have to be numbers of
their word size.
-/

namespace DiceCup.CommandLine

/-- What a command line asks for. -/
structure Settings where
  expressions : List String
  file : Option String
  seed : Option UInt64
  times : UInt32
  verbose : Bool
  deriving DecidableEq

/-- Why a command line is not acted upon. -/
inductive Refusal where
  /-- There is no such option. -/
  | unknownArgument
  /-- An option has no value, or the path of a file is empty. -/
  | missingValue
  /-- A value is not a number of its size. -/
  | invalidNumber
  /-- An option is given twice. -/
  | repeatedOption
  /-- A value is given to an option that takes none. -/
  | unwantedValue
  /-- Help is asked for. -/
  | helpWanted
  deriving DecidableEq

/-- The number that a seed is written as; a plus in front changes nothing. -/
def readSeed?
    (value : List Char) :
    Option UInt64 :=
  let digits :=
    match value with
    | '+' :: digits => digits
    | digits => digits
  (Text.natural? digits).bind Text.toUInt64?

/-- The number of times that is written; it may have a sign, and minus zero is zero. -/
def readTimes?
    (value : List Char) :
    Option UInt32 :=
  match value with
  | '+' :: digits => (Text.natural? digits).bind Text.toUInt32?
  | '-' :: digits => (Text.natural? digits).bind fun magnitude =>
      if magnitude = 0 then some 0 else none
  | digits => (Text.natural? digits).bind Text.toUInt32?

end DiceCup.CommandLine
