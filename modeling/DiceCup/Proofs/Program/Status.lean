import DiceCup.Proofs.Program.Asked
import DiceCup.Proofs.Session.Isolation

/-!
# How a run ends

A run ends with code 0 exactly if its file can be read and every notation stands for expressions
(`ofCommandLine_status`).  A file that cannot be read is all that is told of a run.  An entry that
cannot be read changes nothing else but the code: the others are rolled as if it was not there.
-/

namespace DiceCup.Program

open CommandLine

/-- A session ends with code 0 if it is complete, and with code 1 if not. -/
theorem code_conclude_cases
    {σ : Type}
    (session : Session σ) :
    session.complete = true ∧ (conclude session).code = 0 ∨
      session.complete = false ∧ (conclude session).code = 1 := by
  rw [conclude]
  cases session.complete with
  | false => exact .inr ⟨rfl, rfl⟩
  | true => exact .inl ⟨rfl, rfl⟩

section Runs

variable
  {settings : Settings}
  {reader : FileReader}
  {lines : List String}
  {seed : UInt64}
  (lists : FileLists reader settings.file lines)
  (seeded : settings.seed = some seed)
  (fresh : KeyStream)

include lists seeded

/-- If the file can be read, the code tells whether all that is asked for can be. -/
theorem code_run_of_fileLists :
    ((run settings reader fresh).code = 0 ↔
        ∀ written ∈ Entry.orQuickRolls (settings.expressions ++ lines),
          Entry.readable written = true) ∧
      ((run settings reader fresh).code = 0 ∨ (run settings reader fresh).code = 1) := by
  let entries := Entry.orQuickRolls (settings.expressions ++ lines)
  let session := seededSession settings seed entries
  have ends : run settings reader fresh = conclude session := run_of_fileLists lists seeded fresh
  have all : session.complete = entries.all Entry.readable :=
    Session.complete_rollEntries settings.verbose settings.times.toNat entries
      (KeyStream.ofSeed seed)
  rw [ends, ← List.all_eq_true, ← all]
  rcases code_conclude_cases session with ⟨complete, code⟩ | ⟨incomplete, code⟩
  · simp [complete, code]
  · simp [incomplete, code]

/-- If the file can be read, the rounds of all that can be read are printed. -/
theorem printed_run_of_fileLists :
    let entries := Entry.orQuickRolls (settings.expressions ++ lines)
    let requests := entries.filterMap Request.ofEntry?
    let rolled := (rollRounds settings.times.toNat requests).run (KeyStream.ofSeed seed)
    (run settings reader fresh).printed =
      String.join ((rolled.1.flatMap Round.lines).map (· ++ "\n")) := by
  intro entries requests rolled
  have rounds :=
    (Session.rollEntries_eq_rounds settings.verbose settings.times.toNat entries
      (KeyStream.ofSeed seed)).1
  rw [run_of_fileLists lists seeded, conclude, seededSession, rounds, Text.unlines]

end Runs

/--
The code is 0 if there is no file or it lists entries, and if every entry, or quick roll, has a
notation that stands for expressions; otherwise it is 1.  If the file cannot be read, nothing is
printed and only that is reported.  If it can, then all that is asked for is rolled so many times
from the seed, in order, and printed line by line, whatever other entries cannot be read.
-/
theorem ofCommandLine_status
    {arguments : List String}
    {settings : Settings}
    {seed : UInt64}
    (accepted : CommandLine.read arguments = .ok settings)
    (seeded : settings.seed = some seed)
    (reader : FileReader)
    (fresh : KeyStream) :
    let asked (lines : List String) : List String :=
      if (settings.expressions ++ lines).isEmpty then
        ["d4", "d6", "d8", "d10", "d12", "d20", "d100"]
      else
        settings.expressions ++ lines
    ∃ ending : Ending,
      ofCommandLine arguments reader fresh = .ok ending ∧
        (ending.code = 0 ↔
          ∃ lines : List String,
            FileLists reader settings.file lines ∧
              ∀ written ∈ asked lines, ∃ (text : String) (expressions : List Expression),
                NotationOf written text ∧ parse text = .ok expressions) ∧
        (ending.code = 0 ∨ ending.code = 1) ∧
        (∀ (path : String) (fault : ReadFault),
          settings.file = some path →
            reader.Fails path fault →
              ending.printed = "" ∧
                ending.reported =
                  "Error: Could not read input file " ++ path ++ "\n\nCaused by:\n    " ++
                    fault.reason ++ "\n") ∧
        ∀ lines : List String,
          FileLists reader settings.file lines →
            let requests := (asked lines).filterMap Request.ofEntry?
            let rounds :=
              ((rollRounds settings.times.toNat requests).run (KeyStream.ofSeed seed)).1
            List.Forall₂ Round.Rolls rounds
                (requests.flatMap (List.replicate settings.times.toNat)) ∧
              ending.printed = String.join ((rounds.flatMap Round.lines).map (· ++ "\n")) := by
  intro asked
  refine ⟨_, ofCommandLine_of_accepted accepted reader fresh, ⟨?_, ?_⟩, ?_, ?_, ?_⟩
  · intro success
    rcases fileLists_or_fails reader settings.file with
      ⟨lines, lists⟩ | ⟨path, fault, given, fails⟩
    · have all := (code_run_of_fileLists lists seeded fresh).1.mp success
      exact ⟨lines, lists, fun written member => Entry.readable_iff.mp (all written member)⟩
    · rw [run_of_fails given fails] at success
      cases success
  · rintro ⟨lines, lists, all⟩
    exact (code_run_of_fileLists lists seeded fresh).1.mpr fun written member =>
      Entry.readable_iff.mpr (all written member)
  · rcases fileLists_or_fails reader settings.file with
      ⟨lines, lists⟩ | ⟨path, fault, given, fails⟩
    · exact (code_run_of_fileLists lists seeded fresh).2
    · rw [run_of_fails given fails]
      exact .inr rfl
  · intro path fault given fails
    rw [run_of_fails given fails]
    exact ⟨rfl, rfl⟩
  · intro lines lists requests rounds
    exact ⟨rolls_rollRounds settings.times.toNat requests (KeyStream.ofSeed seed),
      printed_run_of_fileLists lists seeded fresh⟩

/--
A die without sides, behind a die that is rolled: the code is 1 either way, but the die is rolled
only if the file, which lists nothing, is there.
-/
theorem ofCommandLine_status_two_files :
    let arguments := ["-s3", "-f", "rolls.txt", "d6", "Bad=2d"]
    let missing : FileReader := fun _ => .error .missing
    let blank : FileReader := fun _ => .ok "\n".toUTF8
    let fresh := KeyStream.ofSeed 0
    (∃ ending : Ending,
      ofCommandLine arguments missing fresh = .ok ending ∧
        ending.code = 1 ∧
        ending.printed = "" ∧
        ending.reported =
          "Error: Could not read input file rolls.txt\n\nCaused by:\n" ++
            "    No such file or directory (os error 2)\n") ∧
      ∃ (ending : Ending) (outcome : Outcome),
        ofCommandLine arguments blank fresh = .ok ending ∧
          ending.code = 1 ∧
          ending.printed = "1d6" ++ "  =>  " ++ outcome.render ++ "\n" := by
  intro arguments missing blank fresh
  let settings : Settings :=
    { expressions := ["d6", "Bad=2d"], file := some "rolls.txt", seed := some 3, times := 1,
      verbose := false }
  have accepted : CommandLine.read arguments = .ok settings := by
    rfl
  constructor
  · obtain ⟨ending, ends, success, codes, fails, -⟩ :=
      ofCommandLine_status accepted rfl missing fresh
    obtain ⟨printed, reported⟩ := fails "rolls.txt" .missing rfl (.refused rfl)
    have failure : ending.code ≠ 0 := by
      intro code
      obtain ⟨lines, lists, -⟩ := success.mp code
      cases lists with
      | text found _ => cases found
    refine ⟨ending, ends, codes.resolve_left failure, printed, ?_⟩
    rw [reported]
    decide +kernel
  · obtain ⟨ending, ends, success, codes, -, rolls⟩ :=
      ofCommandLine_status accepted rfl blank fresh
    have text : Entry.ofString "Bad=2d" = { name := some "Bad", text := "2d" } := by
      decide +kernel
    have refused : parse "2d" = .error (.missing 2 .sides) := by
      have small : Notation.lowered "2d" = ['2', 'd'] := by
        decide +kernel
      rw [Notation.parse_eq, small, Notation.groups_eq, Notation.group_eq, Notation.chain_eq]
      rfl
    have bad : Request.ofEntry? "Bad=2d" = none := by
      simp only [Request.ofEntry?, text, refused]
    have failure : ending.code ≠ 0 := by
      intro code
      obtain ⟨lines, lists, all⟩ := success.mp code
      have among := all "Bad=2d" (by simp [settings])
      rw [← Entry.readable_iff, Entry.readable, bad] at among
      cases among
    have nothing : Text.Lists "\n".toList [] :=
      Text.lists_iff.mpr (by decide +kernel)
    have lists : FileLists blank (some "rolls.txt") ([].map String.ofList) := .text rfl nothing
    have requests :
        ["d6", "Bad=2d"].filterMap Request.ofEntry? =
          [{ name := none, expressions := [.single Notation.sixSided] }] := by
      rw [List.filterMap_cons_some Request.ofEntry?_sixSided, List.filterMap_cons_none bad,
        List.filterMap_nil]
    obtain ⟨rounds, printed⟩ := rolls [] lists
    simp only [settings, List.append_nil, List.isEmpty_cons, Bool.false_eq_true, if_false,
      requests] at rounds printed
    obtain ⟨round, others, rolled, noOthers, shape⟩ := List.forall₂_cons_right_iff.mp rounds
    rw [List.forall₂_nil_right_iff.mp noOthers] at shape
    rw [shape, List.flatMap_singleton] at printed
    rcases round with ⟨request, outcomes⟩
    obtain ⟨rfl, once⟩ := rolled
    obtain ⟨outcome, rfl⟩ := List.length_eq_one_iff.mp once
    have written : (Expression.single Notation.sixSided).render = "1d6" := by
      decide +kernel
    refine ⟨ending, outcome, ends, codes.resolve_left failure, ?_⟩
    simp [printed, Round.lines, Round.indent, written]

end DiceCup.Program
