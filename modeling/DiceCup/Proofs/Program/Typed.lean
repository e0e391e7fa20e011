import DiceCup.Proofs.CommandLine.Separator
import DiceCup.Proofs.Program.Asked

/-!
# What a file lists can be typed instead

A run of a command line with a file ends like a run of a command line without one, on which the
lines of the file are typed behind the separator (`ofCommandLine_file_eq_typed`).  The layout of the
file makes no difference: blanks at the edges of its lines can be put in and left out.
-/

namespace DiceCup.Program

open CommandLine

/-- What is typed behind the separator is all that is rolled. -/
theorem ofCommandLine_typed
    {options typed : List String}
    {settings : Settings}
    {seed : UInt64}
    (unseparated : "--" ∉ options)
    (accepted : CommandLine.read options = .ok { settings with expressions := [], file := none })
    (seeded : settings.seed = some seed)
    (reader : FileReader)
    (fresh : KeyStream) :
    ofCommandLine (options ++ "--" :: typed) reader fresh =
      .ok (conclude (seededSession settings seed (Entry.orQuickRolls typed))) := by
  let typedSettings : Settings := { settings with expressions := typed, file := none }
  have acceptedTyped : CommandLine.read (options ++ "--" :: typed) = .ok typedSettings :=
    read_append_separator unseparated accepted typed
  have lists : FileLists reader typedSettings.file [] := .unasked
  rw [ofCommandLine_of_accepted acceptedTyped, run_of_fileLists lists seeded, List.append_nil]
  rfl

/-- What is typed and what the text of the file lists is all that is rolled. -/
theorem ofCommandLine_file
    {arguments : List String}
    {settings : Settings}
    {seed : UInt64}
    {path contents : String}
    {reader : FileReader}
    (accepted : CommandLine.read arguments = .ok settings)
    (seeded : settings.seed = some seed)
    (given : settings.file = some path)
    (found : reader path = .ok contents.toUTF8)
    (fresh : KeyStream) :
    let lines := (Text.listed contents.toList).map String.ofList
    ofCommandLine arguments reader fresh =
      .ok (conclude
        (seededSession settings seed (Entry.orQuickRolls (settings.expressions ++ lines)))) := by
  intro lines
  have lists : FileLists reader settings.file lines := by
    rw [given]
    exact .text found (Text.lists_listed contents.toList)
  rw [ofCommandLine_of_accepted accepted, run_of_fileLists lists seeded]

/-- The quick rolls are rolled if nothing is typed, and also if they are typed. -/
theorem orQuickRolls_idempotent
    (entries : List String) :
    Entry.orQuickRolls (Entry.orQuickRolls entries) = Entry.orQuickRolls entries := by
  cases entries <;> rfl

theorem orQuickRolls_eq_ite
    (entries : List String) :
    Entry.orQuickRolls entries =
      if entries = [] then ["d4", "d6", "d8", "d10", "d12", "d20", "d100"] else entries := by
  cases entries <;> rfl

/--
A file is the same as its lines typed behind the separator, after what is typed already.  If there
is nothing of either, then the quick rolls can be typed.  The options only have to ask for the same
seed, number of times and reports; there are such options.  And the run ends alike if blanks are put
in or left out at the edges of the lines.
-/
theorem ofCommandLine_file_eq_typed
    {arguments : List String}
    {settings : Settings}
    {seed : UInt64}
    {path contents : String}
    {reader : FileReader}
    (accepted : CommandLine.read arguments = .ok settings)
    (seeded : settings.seed = some seed)
    (given : settings.file = some path)
    (found : reader path = .ok contents.toUTF8)
    (fresh : KeyStream) :
    ∃ (lines : List (List Char)) (ending : Ending),
      (∀ others : List (List Char), Text.Lists contents.toList others ↔ others = lines) ∧
        ofCommandLine arguments reader fresh = .ok ending ∧
        (let asked := settings.expressions ++ lines.map String.ofList
          let typed :=
            if asked = [] then ["d4", "d6", "d8", "d10", "d12", "d20", "d100"] else asked
          let bare : Settings := { settings with expressions := [], file := none }
          (∀ options : List String,
            "--" ∉ options →
              CommandLine.read options = .ok bare →
                ∀ (otherReader : FileReader) (otherFresh : KeyStream),
                  ofCommandLine (options ++ "--" :: typed) otherReader otherFresh = .ok ending) ∧
            ∃ options : List String, "--" ∉ options ∧ CommandLine.read options = .ok bare) ∧
        ∀ (relaid : String) (otherReader : FileReader) (otherFresh : KeyStream),
          Relation.EqvGen Text.Relaid contents.toList relaid.toList →
            otherReader path = .ok relaid.toUTF8 →
              ofCommandLine arguments otherReader otherFresh = .ok ending := by
  refine ⟨Text.listed contents.toList, _, fun _ => Text.lists_iff,
    ofCommandLine_file accepted seeded given found fresh, ⟨?_, ?_⟩, ?_⟩
  · intro options unseparated acceptedOptions otherReader otherFresh
    rw [← orQuickRolls_eq_ite, ofCommandLine_typed unseparated acceptedOptions seeded,
      orQuickRolls_idempotent]
  · have options := read_seedOptions seed settings.times settings.verbose
    rw [← seeded] at options
    exact ⟨_, options⟩
  · intro relaid otherReader otherFresh same foundRelaid
    rw [ofCommandLine_file accepted seeded given foundRelaid, Text.listed_eq_of_relaid same]

/--
A file with an indentation, a carriage return, an empty line and a last line end, a file without
them, and its lines typed behind the separator.
-/
theorem ofCommandLine_file_eq_typed_indented :
    let arguments := ["-vs7", "--file=rolls.txt", "d8"]
    let indented : FileReader := fun _ => .ok " d6\r\n\nd0\n".toUTF8
    let plain : FileReader := fun _ => .ok "d6\nd0".toUTF8
    let missing : FileReader := fun _ => .error .missing
    let fresh := KeyStream.ofSeed 0
    let typed := ["--verbose", "-s", "7", "--", "d8", "d6", "d0"]
    ∃ ending : Ending,
      ofCommandLine arguments indented fresh = .ok ending ∧
        ofCommandLine arguments plain fresh = .ok ending ∧
        ofCommandLine typed missing fresh = .ok ending := by
  intro arguments indented plain missing fresh typed
  let settings : Settings :=
    { expressions := ["d8"], file := some "rolls.txt", seed := some 7, times := 1, verbose := true }
  have accepted : CommandLine.read arguments = .ok settings := by
    rfl
  have acceptedOptions :
      CommandLine.read ["--verbose", "-s", "7"] =
        .ok { settings with expressions := [], file := none } := by
    rfl
  have unseparated : "--" ∉ ["--verbose", "-s", "7"] := by
    decide +kernel
  have lists : Text.Lists " d6\r\n\nd0\n".toList ["d6".toList, "d0".toList] :=
    Text.lists_iff.mpr (by decide +kernel)
  have relaid : Relation.EqvGen Text.Relaid " d6\r\n\nd0\n".toList "d6\nd0".toList := by
    have indentation :
        Text.Relaid ([] ++ "d6\nd0".toList) ([] ++ [' '] ++ "d6\nd0".toList) :=
      .insert (List.forall_mem_singleton.mpr rfl) (.inl (by simp))
    have carriageReturn :
        Text.Relaid (" d6".toList ++ "\nd0".toList) (" d6".toList ++ ['\r'] ++ "\nd0".toList) :=
      .insert (List.forall_mem_singleton.mpr rfl) (.inr (by simp))
    have emptyLine :
        Text.Relaid (" d6\r\n".toList ++ "d0".toList)
          (" d6\r\n".toList ++ ['\n'] ++ "d0".toList) :=
      .insert (List.forall_mem_singleton.mpr rfl) (.inl (by simp))
    have lastLineEnd :
        Text.Relaid (" d6\r\n\nd0".toList ++ []) (" d6\r\n\nd0".toList ++ ['\n'] ++ []) :=
      .insert (List.forall_mem_singleton.mpr rfl) (.inr (by simp))
    have put : Relation.EqvGen Text.Relaid "d6\nd0".toList " d6\r\n\nd0\n".toList :=
      (Relation.EqvGen.rel _ _ indentation).trans _ _ _ <|
        (Relation.EqvGen.rel _ _ carriageReturn).trans _ _ _ <|
          (Relation.EqvGen.rel _ _ emptyLine).trans _ _ _ (.rel _ _ lastLineEnd)
    exact put.symm
  have found : indented "rolls.txt" = .ok " d6\r\n\nd0\n".toUTF8 := rfl
  obtain ⟨lines, ending, unique, ends, ⟨same, -⟩, sameRelaid⟩ :=
    ofCommandLine_file_eq_typed accepted rfl rfl found fresh
  obtain rfl := (unique _).mp lists
  exact ⟨ending, ends, sameRelaid _ _ _ relaid rfl,
    same ["--verbose", "-s", "7"] unseparated acceptedOptions missing fresh⟩

end DiceCup.Program
