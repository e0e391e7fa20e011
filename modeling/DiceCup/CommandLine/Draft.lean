import DiceCup.CommandLine.Settings

/-!
# Reading a command line

The arguments are read from left to right into a draft of the settings.  An option whose value is
the next argument is left pending until the argument after that, or until the end: only then is its
value looked at.  So a name that no option has is found before a value that is no number.

Of one option it is asked in this order: whether it has a value, whether it was given before, and
whether the value is right.
-/

namespace DiceCup.CommandLine

/-- Settings that are being read, and an option whose value has not been looked at. -/
structure Draft where
  expressions : Array String
  file : Option String
  seed : Option UInt64
  times : Option UInt32
  verbose : Bool
  pending : Option (Choice × Option String)
  deriving DecidableEq

namespace Draft

/-- The draft of an empty command line. -/
def empty : Draft where
  expressions := #[]
  file := none
  seed := none
  times := none
  verbose := false
  pending := none

/-- Whether an option that takes a value was given before. -/
def given
    (draft : Draft) :
    Choice → Bool
  | .file => draft.file.isSome
  | .seed => draft.seed.isSome
  | .times => draft.times.isSome

/-- Put the value of an option into the settings. -/
def store
    (draft : Draft)
    (choice : Choice)
    (value : String) :
    Except Refusal Draft :=
  match choice with
  | .file =>
    if value = "" then .error .missingValue else .ok { draft with file := some value }
  | .seed =>
    match readSeed? value.toList with
    | none => .error .invalidNumber
    | some seed => .ok { draft with seed := some seed }
  | .times =>
    match readTimes? value.toList with
    | none => .error .invalidNumber
    | some times => .ok { draft with times := some times }

/-- Take note of an option that takes a value, if the value is there and right. -/
def choose
    (draft : Draft)
    (choice : Choice) :
    Option String → Except Refusal Draft
  | none => .error .missingValue
  | some value =>
    if draft.given choice then .error .repeatedOption else draft.store choice value

/-- Look at the value of the pending option. -/
def settle
    (draft : Draft) :
    Except Refusal Draft :=
  match draft.pending with
  | none => .ok draft
  | some (choice, value) => { draft with pending := none }.choose choice value

/-- Take note of an option that takes no value. -/
def turnOn
    (draft : Draft) :
    Switch → Except Refusal Draft
  | .help => .error .helpWanted
  | .verbose =>
    if draft.verbose then .error .repeatedOption else .ok { draft with verbose := true }

/-- Read an option that is named in full. -/
def acceptLong
    (draft : Draft)
    (name : List Char)
    (value : Option (List Char)) :
    Except Refusal Draft := do
  match Flag.ofName? name, value with
  | none, _ => .error .unknownArgument
  | some (.switch _), some _ => .error .unwantedValue
  | some (.switch switch), none =>
    let settled ← draft.settle
    settled.turnOn switch
  | some (.choice choice), some value =>
    let settled ← draft.settle
    settled.choose choice (some (String.ofList value))
  | some (.choice choice), none =>
    let settled ← draft.settle
    return { settled with pending := some (choice, none) }

/--
Read a cluster of letters.  What follows the letter of an option with a value is the value, from
which one equals sign in front is dropped.
-/
def acceptCluster
    (draft : Draft) :
    List Char → Except Refusal Draft
  | [] => .ok draft
  | letter :: others =>
    match Flag.ofLetter? letter with
    | none => .error .unknownArgument
    | some (.switch switch) => do
      let settled ← draft.settle
      let turned ← settled.turnOn switch
      turned.acceptCluster others
    | some (.choice choice) => do
      let settled ← draft.settle
      match others with
      | [] => return { settled with pending := some (choice, none) }
      | '=' :: value => settled.choose choice (some (String.ofList value))
      | value => settled.choose choice (some (String.ofList value))

/-- Read an argument that stands for itself: the value that an option waits for, or an entry. -/
def acceptPlain
    (draft : Draft)
    (text : String) :
    Except Refusal Draft :=
  match draft.pending with
  | some (choice, none) => .ok { draft with pending := some (choice, some text) }
  | _ => do
    let settled ← draft.settle
    return { settled with expressions := settled.expressions.push text }

/-- Read all arguments; those after the separator are entries. -/
def acceptAll
    (draft : Draft) :
    List String → Except Refusal Draft
  | [] => draft.settle
  | argument :: others =>
    match Argument.ofString argument with
    | .separator => do
      let settled ← draft.settle
      return { settled with expressions := settled.expressions ++ others }
    | .long name value => do (← draft.acceptLong name value).acceptAll others
    | .cluster letters => do (← draft.acceptCluster letters).acceptAll others
    | .plain text => do (← draft.acceptPlain text).acceptAll others

/-- The settings of a draft in which nothing is pending; every entry is rolled once by default. -/
def finish
    (draft : Draft) :
    Settings where
  expressions := draft.expressions.toList
  file := draft.file
  seed := draft.seed
  times := draft.times.getD 1
  verbose := draft.verbose

end Draft

/-- Read the arguments of a command line. -/
def read
    (arguments : List String) :
    Except Refusal Settings :=
  Draft.finish <$> Draft.empty.acceptAll arguments

end DiceCup.CommandLine
