import DiceCup.CommandLine.Draft
import DiceCup.Program.File
import DiceCup.Random.KeyStream
import DiceCup.Session.Basic
import DiceCup.Text.Lines

/-!
# Running the program

A run rolls the entries of the command line and then those of the file, or the quick rolls if there
are none.  A file that cannot be read ends the run before anything is rolled.  A run is a success if
every entry could be read.
-/

namespace DiceCup

/-- How a run ends: the exit code, and the texts of the two output streams. -/
structure Ending where
  code : Nat
  printed : String
  reported : String
  deriving DecidableEq

namespace Program

open CommandLine

/-- The entries that are asked for: those of the command line, then the lines of the file. -/
def entries
    (settings : Settings)
    (reader : FileReader) :
    Except (String × ReadFault) (List String) :=
  match settings.file with
  | none => .ok (Entry.orQuickRolls settings.expressions)
  | some path =>
    match reader.text path with
    | .error fault => .error (path, fault)
    | .ok contents =>
      .ok (Entry.orQuickRolls (settings.expressions ++ Text.filledLines contents))

/-- The end of a run whose file cannot be read. -/
def unreadable
    (path : String)
    (fault : ReadFault) :
    Ending where
  code := 1
  printed := ""
  reported :=
    "Error: Could not read input file " ++ path ++ "\n\nCaused by:\n    " ++ fault.reason ++ "\n"

/-- The end of a run in which a session was rolled to its end. -/
def conclude
    {σ : Type}
    (session : Session σ) :
    Ending where
  code := if session.complete then 0 else 1
  printed := Text.unlines session.printed.toList
  reported := Text.unlines session.reported.toList

/-- Run with the given settings; the fresh source is used if there is no seed. -/
def run
    (settings : Settings)
    (reader : FileReader)
    (fresh : KeyStream) :
    Ending :=
  match entries settings reader with
  | .error (path, fault) => unreadable path fault
  | .ok entries =>
    let source := (settings.seed.map KeyStream.ofSeed).getD fresh
    conclude
      (Session.rollEntries settings.verbose settings.times.toNat entries (Session.start source))

end Program

end DiceCup
