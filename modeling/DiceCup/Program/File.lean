/-!
# Files to read from

A program reads files by their path.  Where the files are is not its business: it is given a reader,
which hands out the bytes of a file or says why it cannot.
-/

namespace DiceCup

/-- Why a file cannot be read as text. -/
inductive ReadFault where
  /-- The system refuses, with a description and a number. -/
  | system (description : String) (code : Nat)
  /-- The bytes are not the encoding of a text. -/
  | notText
  deriving DecidableEq

namespace ReadFault

/-- Nothing has that path. -/
def missing : ReadFault :=
  .system "No such file or directory" 2

/-- The path goes on behind a file. -/
def notFolder : ReadFault :=
  .system "Not a directory" 20

/-- The path leads to a folder. -/
def folder : ReadFault :=
  .system "Is a directory" 21

/-- What is told about a fault. -/
def reason :
    ReadFault → String
  | .system description code => s!"{description} (os error {code})"
  | .notText => "stream did not contain valid UTF-8"

end ReadFault

/-- The bytes behind each path, or why there are none. -/
abbrev FileReader :=
  String → Except ReadFault ByteArray

/-- The text behind a path. -/
def FileReader.text
    (reader : FileReader)
    (path : String) :
    Except ReadFault String :=
  match reader path with
  | .error fault => .error fault
  | .ok bytes =>
    match String.fromUTF8? bytes with
    | none => .error .notText
    | some text => .ok text

end DiceCup
