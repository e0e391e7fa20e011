import DiceCup.Program.Run

/-!
# The command line program

Everything that needs the outside world: the arguments, the file, fresh randomness, the two output
streams and the exit code.  What the program does with them is `DiceCup.Program.run`.
-/

namespace DiceCup

namespace Main

/-- How the program is used. -/
def usage : String :=
  "Roll dice notation like 4x3d8-5 ; 2d6 & d4+1\n\n" ++
  "Usage: dicecup [OPTIONS] [EXPRESSIONS]...\n\n" ++
  "Arguments:\n" ++
  "  [EXPRESSIONS]...   Expressions to roll, name=expression prints the name above the results\n\n" ++
  "Options:\n" ++
  "  -f, --file <FILE>    Read more expressions from a file, one per line\n" ++
  "  -s, --seed <SEED>    Roll the same every time\n" ++
  "  -n, --times <TIMES>  How many times to roll every expression [default: 1]\n" ++
  "  -v, --verbose        Report every die as it is rolled\n" ++
  "  -h, --help           Print help\n"

/-- What is told about a command line that is not acted upon. -/
def complaint :
    CommandLine.Refusal → String
  | .unknownArgument => "there is no such option"
  | .missingValue => "an option has no value"
  | .invalidNumber => "a value is not a number that fits"
  | .repeatedOption => "an option is given twice"
  | .unwantedValue => "an option takes no value"
  | .helpWanted => "help is wanted"

/-- The fault with a number that the system gave, which may come with a minus in front. -/
def faultOfCode
    (code : UInt32)
    (details : String) :
    ReadFault :=
  match code.toInt32.toInt.natAbs with
  | 2 => .missing
  | 13 => .system "Permission denied" 13
  | 20 => .notFolder
  | 21 => .folder
  | number => .system details number

/-- A failure of the system as a fault of reading. -/
def readFault :
    IO.Error → ReadFault
  | .noFileOrDirectory _ code details => faultOfCode code details
  | .permissionDenied _ code details => faultOfCode code details
  | .inappropriateType _ code details => faultOfCode code details
  | .invalidArgument _ code details => faultOfCode code details
  | .resourceExhausted _ code details => faultOfCode code details
  | error => .system (toString error) 5

/-- Read a file ahead; the reader that is made of it knows no other path. -/
def readAhead
    (path : String) :
    IO FileReader := do
  try
    let bytes ← IO.FS.readBinFile path
    return fun _ => .ok bytes
  catch error =>
    return fun _ => .error (readFault error)

/-- A source that no run shares with another. -/
def freshSource :
    IO KeyStream := do
  let bytes ← IO.getRandomBytes 32
  let wordAt (index : Nat) : UInt32 :=
    ((bytes.toList.drop (4 * index)).take 4).foldl (fun word byte => word * 256 + byte.toUInt32) 0
  return KeyStream.ofKey (Vector.ofFn fun index => wordAt index)

end Main

end DiceCup

/-- Read the command line, run, and write what there is to tell. -/
def main
    (arguments : List String) :
    IO UInt32 := do
  match DiceCup.CommandLine.read arguments with
  | .error .helpWanted =>
    IO.print DiceCup.Main.usage
    return 0
  | .error refusal =>
    IO.eprintln ("error: " ++ DiceCup.Main.complaint refusal)
    return 2
  | .ok settings =>
    let reader : DiceCup.FileReader ←
      match settings.file with
      | none => pure fun _ => .error .missing
      | some path => DiceCup.Main.readAhead path
    let ending := DiceCup.Program.run settings reader (← DiceCup.Main.freshSource)
    IO.print ending.printed
    IO.eprint ending.reported
    return UInt32.ofNat ending.code
