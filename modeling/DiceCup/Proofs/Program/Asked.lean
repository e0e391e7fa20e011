import DiceCup.Program.Run
import DiceCup.Proofs.Text.Listing

/-!
# What a run is asked to roll

The file of a command line either lists entries, which stand in a text (`FileLists`), or cannot be
read as a text (`FileReader.Fails`).  In the first case a run is a session of the entries that are
typed and those that are listed (`run_of_fileLists`), in the second nothing is rolled
(`run_of_fails`).
-/

namespace DiceCup

namespace FileReader

variable
  {reader : FileReader}
  {path : String}

/-- A file cannot be read as a text, because it cannot be read or does not hold one. -/
inductive Fails
    (reader : FileReader)
    (path : String) :
    ReadFault → Prop where
  | refused
      {fault : ReadFault}
      (refuses : reader path = .error fault) :
      Fails reader path fault
  | notText
      {bytes : ByteArray}
      (found : reader path = .ok bytes)
      (other : ∀ contents : String, bytes ≠ contents.toUTF8) :
      Fails reader path .notText

/-- A text is read from the bytes that encode it. -/
theorem text_eq_ok
    {contents : String}
    (found : reader path = .ok contents.toUTF8) :
    reader.text path = .ok contents := by
  have decoded : String.fromUTF8? contents.toUTF8 = some contents :=
    dif_pos contents.isValidUTF8
  simp only [text, found, decoded]

theorem Fails.text_eq_error
    {fault : ReadFault}
    (fails : reader.Fails path fault) :
    reader.text path = .error fault := by
  cases fails with
  | refused refuses => simp only [text, refuses]
  | @notText bytes found other =>
      have undecoded : String.fromUTF8? bytes = none :=
        dif_neg fun valid => other (String.fromUTF8 bytes valid) rfl
      simp only [text, found, undecoded]

/-- There is a text behind a path, or it cannot be read. -/
theorem found_or_fails
    (reader : FileReader)
    (path : String) :
    (∃ contents : String, reader path = .ok contents.toUTF8) ∨
      ∃ fault : ReadFault, reader.Fails path fault := by
  cases outcome : reader path with
  | error fault => exact .inr ⟨fault, .refused outcome⟩
  | ok bytes =>
      by_cases encodes : ∃ contents : String, bytes = contents.toUTF8
      · obtain ⟨contents, rfl⟩ := encodes
        exact .inl ⟨contents, rfl⟩
      · exact .inr ⟨.notText, .notText outcome fun contents same => encodes ⟨contents, same⟩⟩

end FileReader

namespace Program

open CommandLine

/-- A run from the arguments on, unless the command line is not acted upon. -/
def ofCommandLine
    (arguments : List String)
    (reader : FileReader)
    (fresh : KeyStream) :
    Except Refusal Ending :=
  (CommandLine.read arguments).map fun settings => run settings reader fresh

theorem ofCommandLine_of_accepted
    {arguments : List String}
    {settings : Settings}
    (accepted : CommandLine.read arguments = .ok settings)
    (reader : FileReader)
    (fresh : KeyStream) :
    ofCommandLine arguments reader fresh = .ok (run settings reader fresh) := by
  rw [ofCommandLine, accepted]
  rfl

/-- The entries that the file of a command line lists; none if there is no file. -/
inductive FileLists
    (reader : FileReader) :
    Option String → List String → Prop where
  | unasked : FileLists reader none []
  | text
      {path contents : String}
      {lines : List (List Char)}
      (found : reader path = .ok contents.toUTF8)
      (lists : Text.Lists contents.toList lines) :
      FileLists reader (some path) (lines.map String.ofList)

/-- A file that is given lists entries, or cannot be read. -/
theorem fileLists_or_fails
    (reader : FileReader)
    (file : Option String) :
    (∃ lines : List String, FileLists reader file lines) ∨
      ∃ (path : String) (fault : ReadFault), file = some path ∧ reader.Fails path fault := by
  cases file with
  | none => exact .inl ⟨[], .unasked⟩
  | some path =>
      rcases reader.found_or_fails path with ⟨contents, found⟩ | ⟨fault, fails⟩
      · exact .inl ⟨_, .text found (Text.lists_listed contents.toList)⟩
      · exact .inr ⟨path, fault, rfl, fails⟩

section Runs

variable
  {settings : Settings}
  {reader : FileReader}

/-- What is typed comes first, then what is listed, and the quick rolls stand in for nothing. -/
theorem entries_of_fileLists
    {lines : List String}
    (lists : FileLists reader settings.file lines) :
    entries settings reader = .ok (Entry.orQuickRolls (settings.expressions ++ lines)) := by
  unfold entries
  generalize settings.file = file at lists
  cases lists with
  | unasked => simp only [List.append_nil]
  | text found lists =>
      simp only [FileReader.text_eq_ok found, Text.filledLines_eq_listed, Text.lists_iff.mp lists]

/-- The session of entries that are rolled from a seed, as often as it is set. -/
def seededSession
    (settings : Settings)
    (seed : UInt64)
    (entries : List String) :
    Session KeyStream :=
  Session.rollEntries settings.verbose settings.times.toNat entries
    (Session.start (KeyStream.ofSeed seed))

/-- If the file can be read, a run is a session of what is typed and what is listed. -/
theorem run_of_fileLists
    {lines : List String}
    {seed : UInt64}
    (lists : FileLists reader settings.file lines)
    (seeded : settings.seed = some seed)
    (fresh : KeyStream) :
    run settings reader fresh =
      conclude
        (seededSession settings seed (Entry.orQuickRolls (settings.expressions ++ lines))) := by
  simp only [run, entries_of_fileLists lists, seeded, Option.map_some, Option.getD_some,
    seededSession]

/-- If the file cannot be read, nothing else is looked at. -/
theorem run_of_fails
    {path : String}
    {fault : ReadFault}
    (given : settings.file = some path)
    (fails : reader.Fails path fault)
    (fresh : KeyStream) :
    run settings reader fresh = unreadable path fault := by
  simp only [run, entries, given, fails.text_eq_error]

end Runs

end Program

end DiceCup
