import DiceCup.Text.Split

/-!
# Arguments of a command line

An argument that starts with two dashes names an option in full, one that starts with a single dash
is a cluster of options of one letter each, and any other argument stands for itself.  Two dashes
alone end the options.
-/

namespace DiceCup.CommandLine

/-- The forms of an argument. -/
inductive Argument where
  /-- Two dashes alone: every later argument stands for itself. -/
  | separator
  /-- An option named in full, with the value after an equals sign if there is one. -/
  | long (name : List Char) (value : Option (List Char))
  /-- Options of one letter each, behind one dash. -/
  | cluster (letters : List Char)
  /-- Anything else, a lone dash and nothing at all included. -/
  | plain (text : String)
  deriving DecidableEq

/-- Tell the form of an argument. -/
def Argument.ofString
    (argument : String) :
    Argument :=
  match argument.toList with
  | ['-', '-'] => .separator
  | '-' :: '-' :: text =>
    match Text.splitFirst '=' text with
    | none => .long text none
    | some (name, value) => .long name (some value)
  | '-' :: letter :: others => .cluster (letter :: others)
  | _ => .plain argument

/-- An option that takes a value. -/
inductive Choice where
  | file
  | seed
  | times
  deriving DecidableEq

/-- An option that takes none. -/
inductive Switch where
  | verbose
  | help
  deriving DecidableEq

/-- An option. -/
inductive Flag where
  | choice (choice : Choice)
  | switch (switch : Switch)
  deriving DecidableEq

/-- The option with a full name. -/
def Flag.ofName?
    (name : List Char) :
    Option Flag :=
  if name = "file".toList then some (.choice .file)
  else if name = "seed".toList then some (.choice .seed)
  else if name = "times".toList then some (.choice .times)
  else if name = "verbose".toList then some (.switch .verbose)
  else if name = "help".toList then some (.switch .help)
  else none

/-- The option with a letter. -/
def Flag.ofLetter? :
    Char → Option Flag
  | 'f' => some (.choice .file)
  | 's' => some (.choice .seed)
  | 'n' => some (.choice .times)
  | 'v' => some (.switch .verbose)
  | 'h' => some (.switch .help)
  | _ => none

end DiceCup.CommandLine
