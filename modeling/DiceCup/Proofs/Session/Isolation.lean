import DiceCup.Proofs.Notation.Limits
import DiceCup.Proofs.Session.Rounds
import DiceCup.Random.Tape
import Mathlib.Data.List.Forall2

/-!
# Entries that cannot be read

An entry that cannot be read draws no die and prints nothing: `rollEntries_isolated` says that a
session without such entries prints the same and leaves the same source.  Each of them is reported
on a line of its own, in order, and the session is complete exactly if there are none.  Sessions of
two lists, one started from the source of the other, make up the session of both.
-/

namespace DiceCup

/-- A line reports an entry: it tells the notation of the entry, and why that is refused. -/
def Entry.ReportedBy
    (written line : String) :
    Prop :=
  ∃ (text : String) (error : NotationError),
    NotationOf written text ∧ parse text = .error error ∧ line = Entry.refusal text error

/-- Entries that cannot be read ask for nothing. -/
theorem Request.filterMap_ofEntry?_readable
    (entries : List String) :
    (entries.filter Entry.readable).filterMap Request.ofEntry? =
      entries.filterMap Request.ofEntry? := by
  rw [List.filterMap_filter]
  apply List.filterMap_congr
  intro written _
  cases asked : Request.ofEntry? written with
  | none => simp
  | some request => simp [Entry.readable, asked]

/-- A die asks to be rolled. -/
theorem Request.ofEntry?_sixSided :
    Request.ofEntry? "d6" =
      some { name := none, expressions := [.single Notation.sixSided] } := by
  have plain : Entry.ofString "d6" = { name := none, text := "d6" } := by
    decide +kernel
  simp only [Request.ofEntry?, plain, Notation.parse_sixSided]

namespace Session

section Sessions

variable
  {σ : Type}
  [DieSource σ]
  (verbose : Bool)
  (times : Nat)
  (entries : List String)
  (source : σ)

/-- An entry that cannot be read makes one line of report, and nothing else happens. -/
theorem exists_report_of_unreadable
    {written : String}
    (unreadable : Entry.readable written = false) :
    ∃ line : String,
      Entry.ReportedBy written line ∧
        ofEntry verbose times written source =
          { source, printed := #[], reported := #[line], complete := false } := by
  have asked : Request.ofEntry? written = none := by
    simpa [Entry.readable] using unreadable
  obtain ⟨error, refused⟩ := Request.ofEntry?_eq_none_iff.mp asked
  exact ⟨_, ⟨_, error, notationOf_iff.mpr rfl, refused, rfl⟩,
    ofEntry_of_error verbose times refused source⟩

/-- A session is complete exactly if every entry can be read. -/
theorem complete_rollEntries :
    (rollEntries verbose times entries (start source)).complete = entries.all Entry.readable := by
  induction entries generalizing source with
  | nil => rfl
  | cons written others inductionHypothesis =>
      rw [rollEntries_cons, complete_join, inductionHypothesis, List.all_cons]
      congr 1
      cases readable : Entry.readable written with
      | false =>
          obtain ⟨line, -, made⟩ := exists_report_of_unreadable verbose times source readable
          rw [made]
      | true =>
          obtain ⟨request, asked⟩ := Option.isSome_iff_exists.mp readable
          rw [ofEntry_of_request verbose times asked]
          rfl

/-- If single dice are not reported, every entry that cannot be read is, and nothing else. -/
theorem reported_rollEntries :
    List.Forall₂ Entry.ReportedBy
      (entries.filter fun written => !Entry.readable written)
      (rollEntries false times entries (start source)).reported.toList := by
  induction entries generalizing source with
  | nil => exact .nil
  | cons written others inductionHypothesis =>
      rw [rollEntries_cons, reported_join, Array.toList_append]
      cases readable : Entry.readable written with
      | false =>
          obtain ⟨line, reports, made⟩ := exists_report_of_unreadable false times source readable
          rw [List.filter_cons_of_pos (by simp [readable]), made]
          exact .cons reports (inductionHypothesis source)
      | true =>
          obtain ⟨request, asked⟩ := Option.isSome_iff_exists.mp readable
          rw [List.filter_cons_of_neg (by simp [readable]), ofEntry_of_request false times asked]
          exact inductionHypothesis _

end Sessions

/--
Entries that cannot be read leave no trace but their report.  Without them the session prints the
same lines and ends with the same source; it is complete exactly if every notation stands for
expressions; and if single dice are not reported, there is one line for each entry that cannot be
read, however often entries are rolled.  What two lists of entries make is what the first makes, and
behind it what the second makes from the source that the first leaves.
-/
theorem rollEntries_isolated
    {σ : Type}
    [DieSource σ]
    (verbose : Bool)
    (times : Nat)
    (entries others : List String)
    (source : σ) :
    let whole := rollEntries verbose times entries (start source)
    let kept := rollEntries verbose times (entries.filter Entry.readable) (start source)
    let quiet := rollEntries false times entries (start source)
    let both := rollEntries verbose times (entries ++ others) (start source)
    let after := rollEntries verbose times others (start whole.source)
    (kept.printed = whole.printed ∧ kept.source = whole.source) ∧
      (whole.complete = true ↔
        ∀ written ∈ entries, ∃ (text : String) (expressions : List Expression),
          NotationOf written text ∧ parse text = .ok expressions) ∧
      List.Forall₂ Entry.ReportedBy
        (entries.filter fun written => !Entry.readable written) quiet.reported.toList ∧
      both.printed = whole.printed ++ after.printed ∧
      both.reported = whole.reported ++ after.reported ∧
      both.source = after.source ∧
      (both.complete = true ↔ whole.complete = true ∧ after.complete = true) := by
  intro whole kept quiet both after
  have wholeRounds := rollEntries_eq_rounds verbose times entries source
  have keptRounds := rollEntries_eq_rounds verbose times (entries.filter Entry.readable) source
  rw [Request.filterMap_ofEntry?_readable] at keptRounds
  have joined : both = whole.join after := by
    simp only [both, rollEntries_append]
    exact adds_rollEntries verbose times others whole
  refine ⟨⟨?_, ?_⟩, ?_, reported_rollEntries times entries source, ?_, ?_, ?_, ?_⟩
  · exact keptRounds.1.trans wholeRounds.1.symm
  · exact keptRounds.2.trans wholeRounds.2.symm
  · simp only [whole, complete_rollEntries, List.all_eq_true, Entry.readable_iff]
  · rw [joined, printed_join]
  · rw [joined, reported_join]
  · rw [joined, source_join]
  · rw [joined, complete_join, Bool.and_eq_true]

/-- A die with two numbers of sides is reported, and the die behind it is rolled as if alone. -/
theorem rollEntries_isolated_two_sides :
    let session := rollEntries false 1 ["Bad=4d4d4", "d6"] (start (Tape.ofWords [7]))
    let alone := rollEntries false 1 ["d6"] (start (Tape.ofWords [7]))
    (alone.printed = session.printed ∧ alone.source = session.source) ∧
      session.complete = false ∧
      ∃ line : String,
        session.reported.toList = [line] ∧ Entry.ReportedBy "Bad=4d4d4" line := by
  have text : Entry.ofString "Bad=4d4d4" = { name := some "Bad", text := "4d4d4" } := by
    decide +kernel
  have refused : parse "4d4d4" = .error (.trailing 3 "d4") := by
    have small : Notation.lowered "4d4d4" = ['4', 'd', '4', 'd', '4'] := by
      decide +kernel
    rw [Notation.parse_eq, small, Notation.groups_eq, Notation.group_eq, Notation.chain_eq]
    rfl
  have bad : Entry.readable "Bad=4d4d4" = false := by
    simp [Entry.readable, Request.ofEntry?, text, refused]
  have good : Entry.readable "d6" = true := by
    simp [Entry.readable, Request.ofEntry?_sixSided]
  have law := rollEntries_isolated false 1 ["Bad=4d4d4", "d6"] [] (Tape.ofWords [7])
  simp only [List.filter_cons, bad, good, List.filter_nil, if_true, Bool.not_true, Bool.not_false,
    Bool.false_eq_true, if_false] at law
  obtain ⟨same, complete, reports, -⟩ := law
  refine ⟨same, ?_, ?_⟩
  · rw [Bool.eq_false_iff]
    intro all
    have among := complete.mp all "Bad=4d4d4" List.mem_cons_self
    rw [← Entry.readable_iff, bad] at among
    cases among
  · obtain ⟨line, others, reported, noOthers, shape⟩ := List.forall₂_cons_left_iff.mp reports
    rw [List.forall₂_nil_left_iff.mp noOthers] at shape
    exact ⟨line, shape, reported⟩

end Session

end DiceCup
