import DiceCup.Proofs.Notation.Limits
import DiceCup.Proofs.Session.Requests
import DiceCup.Random.Tape

/-!
# Rolling entries several times

How often entries are rolled can be said in two ways: by a number, or by writing each entry down so
many times.  The first way reads an entry once and rolls it in a loop; the second one reads every
copy anew.  `rollEntries_copies` says that they come to the same session, names and reports of single
dice included, if all entries can be read.

That is so for one entry (`rollEntries_replicate`), because both ways make the same steps of a
session, and it carries over from entry to entry because the copies of an entry stay together.
-/

namespace DiceCup.Session

section Sessions

variable
  {σ : Type}
  [DieSource σ]
  (verbose : Bool)

/-- An entry that can be read is rolled in a loop, and reading it does nothing else. -/
theorem rollEntry_of_request
    {written : String}
    {request : Request}
    (asked : Request.ofEntry? written = some request)
    (times : Nat)
    (session : Session σ) :
    rollEntry verbose times session written =
      Nat.repeat (rollNamed verbose request.name request.expressions) times session := by
  unfold Request.ofEntry? at asked
  split at asked
  · cases asked
  next expressions parsed =>
    cases asked
    simp only [rollEntry, parsed]

/-- Copies of an entry that can be read are rolled as the entry is rolled so many times. -/
theorem rollEntries_replicate
    {written : String}
    (readable : Entry.readable written = true)
    (times : Nat)
    (session : Session σ) :
    rollEntries verbose 1 (List.replicate times written) session =
      rollEntry verbose times session written := by
  obtain ⟨request, asked⟩ := Option.isSome_iff_exists.mp readable
  rw [rollEntry_of_request verbose asked]
  induction times with
  | zero => rfl
  | succ times inductionHypothesis =>
      calc
        rollEntries verbose 1 (List.replicate (times + 1) written) session =
            rollEntries verbose 1 [written]
              (rollEntries verbose 1 (List.replicate times written) session) := by
          rw [List.replicate_succ', rollEntries_append]
        _ = rollEntry verbose 1
              (Nat.repeat (rollNamed verbose request.name request.expressions) times session)
              written := by
          rw [inductionHypothesis]
          rfl
        _ = Nat.repeat (rollNamed verbose request.name request.expressions) (times + 1)
              session := by
          rw [rollEntry_of_request verbose asked]
          rfl

end Sessions

/--
Rolling entries so many times is rolling the list in which each of them is replaced by so many
copies of itself, once: it prints the same lines, reports the same lines, is complete in the same
cases and leaves the same source, whatever the session was before.
-/
theorem rollEntries_copies
    {σ : Type}
    [DieSource σ]
    {entries : List String}
    (readable :
      ∀ written ∈ entries, ∃ (text : String) (expressions : List Expression),
        NotationOf written text ∧ parse text = .ok expressions)
    (verbose : Bool)
    (times : Nat)
    (session : Session σ) :
    rollEntries verbose times entries session =
      rollEntries verbose 1 (entries.flatMap (List.replicate times)) session := by
  induction entries generalizing session with
  | nil => rfl
  | cons written others inductionHypothesis =>
      obtain ⟨here, readableOthers⟩ := List.forall_mem_cons.mp readable
      have copies := rollEntries_replicate verbose (Entry.readable_iff.mpr here) times session
      rw [List.flatMap_cons, rollEntries_append, copies,
        ← inductionHypothesis readableOthers]
      rfl

/-- A name is printed above every copy, also above one that stands for no dice. -/
theorem rollEntries_copies_named :
    let entries := ["Hit=2x d6", "Miss=0xd4"]
    (∀ written ∈ entries, ∃ (text : String) (expressions : List Expression),
        NotationOf written text ∧ parse text = .ok expressions) ∧
      rollEntries true 2 entries (start (Tape.ofWords [3, 5])) =
        rollEntries true 1 ["Hit=2x d6", "Hit=2x d6", "Miss=0xd4", "Miss=0xd4"]
          (start (Tape.ofWords [3, 5])) := by
  intro entries
  have hit : NotationOf "Hit=2x d6" "2x d6" := ⟨by decide +kernel, .inr ⟨"Hit", rfl⟩⟩
  have miss : NotationOf "Miss=0xd4" "0xd4" := ⟨by decide +kernel, .inr ⟨"Miss", rfl⟩⟩
  have parsedMiss : parse "0xd4" = .ok [] := by
    have small : Notation.lowered "0xd4" = ['0', 'x', 'd', '4'] := by
      decide +kernel
    rw [Notation.parse_eq, small, Notation.groups_eq, Notation.group_eq, Notation.chain_eq]
    rfl
  have readable :
      ∀ written ∈ entries, ∃ (text : String) (expressions : List Expression),
        NotationOf written text ∧ parse text = .ok expressions := by
    intro written member
    simp only [entries, List.mem_cons, List.not_mem_nil, or_false] at member
    rcases member with rfl | rfl
    · exact ⟨_, _, hit, Notation.parse_two_sixSided⟩
    · exact ⟨_, _, miss, parsedMiss⟩
  exact ⟨readable, rollEntries_copies readable true 2 (start (Tape.ofWords [3, 5]))⟩

end DiceCup.Session
