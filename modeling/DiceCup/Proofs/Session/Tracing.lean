import DiceCup.Proofs.Roll.Attribution
import DiceCup.Proofs.Session.Rounds

/-!
# Reports of every die

A session can be asked to report every die.  That is done from the outcomes that were printed, so it
draws nothing and prints nothing: `rollEntries_observed` compares the session that reports every die
with the one that does not.

What becomes of the entries is told in one account for each of them, which is the same for both
sessions.  The lines that they print and the lines that they report are read off these accounts, and
only the lines about single dice depend on whether they are wanted.
-/

namespace DiceCup

/-- What becomes of an entry: why it is refused, or the rounds in which it is rolled. -/
inductive Account where
  | refused (text : String) (error : NotationError)
  | rolled (rounds : List Round)

namespace Account

/-- Whether the entry was rolled. -/
def complete :
    Account → Bool
  | .refused _ _ => false
  | .rolled _ => true

/-- The lines that an entry prints. -/
def printed :
    Account → List String
  | .refused _ _ => []
  | .rolled rounds => rounds.flatMap Round.lines

/-- The lines that an entry reports, with those about single dice if they are wanted. -/
def reported
    (verbose : Bool) :
    Account → List String
  | .refused text error => [Entry.refusal text error]
  | .rolled rounds => if verbose then rounds.flatMap Round.traces else []

end Account

/-- A round rolls some expressions, and its outcomes tell of every die on a line of its own. -/
structure Round.Tells
    (expressions : List Expression)
    (round : Round) :
    Prop where
  expressions_eq : round.request.expressions = expressions
  every_die :
    List.Forall₂
      (fun expression outcome => (expression.trace outcome).length = expression.diceCount)
      expressions round.outcomes

/-- An account of an entry: its refusal, or one round for every time that it is to be rolled. -/
inductive Account.Covers
    (times : Nat)
    (written : String) :
    Account → Prop where
  | refused
      {text : String}
      {error : NotationError}
      (reads : NotationOf written text)
      (refused : parse text = .error error) :
      Covers times written (.refused text error)
  | rolled
      {text : String}
      {expressions : List Expression}
      {rounds : List Round}
      (reads : NotationOf written text)
      (parsed : parse text = .ok expressions)
      (tells : List.Forall₂ Round.Tells (List.replicate times expressions) rounds) :
      Covers times written (.rolled rounds)

namespace Session

/-- The session that is told of in some accounts. -/
def ofAccounts
    {σ : Type}
    (verbose : Bool)
    (accounts : List Account)
    (source : σ) :
    Session σ where
  source := source
  printed := (accounts.flatMap Account.printed).toArray
  reported := (accounts.flatMap (Account.reported verbose)).toArray
  complete := accounts.all Account.complete

/-- An account in front of others is told first. -/
theorem ofAccounts_cons
    {σ : Type}
    (verbose : Bool)
    (account : Account)
    (others : List Account)
    (middle last : σ) :
    ofAccounts verbose (account :: others) last =
      (ofAccounts verbose [account] middle).join (ofAccounts verbose others last) := by
  simp [ofAccounts, join]

variable {σ : Type} [DieSource σ]

/-- Every round of an entry rolls its expressions anew. -/
theorem tells_rounds
    (times : Nat)
    (request : Request)
    (source : σ) :
    List.Forall₂ Round.Tells (List.replicate times request.expressions)
      (((List.replicate times request).mapM Request.roll).run source).1 := by
  rw [← List.map_replicate, List.forall₂_map_left_iff]
  refine forall₂_run_mapM (fun request state => ⟨rfl, ?_⟩) _ source
  exact forall₂_run_mapM length_trace_roll request.expressions state

/-- An entry has an account that does not depend on whether every die is reported. -/
theorem exists_account
    (times : Nat)
    (written : String)
    (source : σ) :
    ∃ (account : Account) (last : σ),
      account.Covers times written ∧
        ∀ verbose : Bool,
          ofEntry verbose times written source = ofAccounts verbose [account] last := by
  have reads : NotationOf written (Entry.ofString written).text := notationOf_iff.mpr rfl
  cases parsed : parse (Entry.ofString written).text with
  | error error =>
      refine ⟨.refused (Entry.ofString written).text error, source, .refused reads parsed, ?_⟩
      intro verbose
      rw [ofEntry_of_error verbose times parsed]
      rfl
  | ok expressions =>
      let request : Request := ⟨(Entry.ofString written).name, expressions⟩
      let rolled := ((List.replicate times request).mapM Request.roll).run source
      refine ⟨.rolled rolled.1, rolled.2,
        .rolled reads parsed (tells_rounds times request source), ?_⟩
      intro verbose
      have asked : Request.ofEntry? written = some request := by
        simp only [Request.ofEntry?, parsed, request]
      rw [ofEntry_of_request verbose times asked]
      cases verbose with
      | false =>
          simp [ofRounds, ofAccounts, Account.printed, Account.reported, Account.complete, rolled]
      | true =>
          simp [ofRounds, ofAccounts, Account.printed, Account.reported, Account.complete, rolled]

/-- A run has an account of each entry, and none of them depends on the reports of single dice. -/
theorem exists_accounts
    (times : Nat)
    (entries : List String)
    (source : σ) :
    ∃ (accounts : List Account) (last : σ),
      List.Forall₂ (Account.Covers times) entries accounts ∧
        ∀ verbose : Bool,
          rollEntries verbose times entries (start source) = ofAccounts verbose accounts last := by
  induction entries generalizing source with
  | nil => exact ⟨[], source, .nil, fun _ => rfl⟩
  | cons written others inductionHypothesis =>
      obtain ⟨account, middle, covers, made⟩ := exists_account times written source
      obtain ⟨accounts, last, coversOthers, madeOthers⟩ := inductionHypothesis middle
      refine ⟨account :: accounts, last, .cons covers coversOthers, ?_⟩
      intro verbose
      rw [rollEntries_cons, made, ofAccounts_cons verbose account accounts middle, ← madeOthers]
      rfl

/--
Reporting every die only observes.  A session that does it prints the same lines, is complete in the
same cases and leaves the same source as one that does not.  Entry by entry, a refused one is
reported by the same line in both; one that is rolled has one block of lines for every time it is
rolled, which is made of the traces of the outcomes that are printed for its expressions, with one
line for each die; and if single dice are not reported, there is nothing but the refusals.
-/
theorem rollEntries_observed
    {σ : Type}
    [DieSource σ]
    (times : Nat)
    (entries : List String)
    (source : σ) :
    let traced := rollEntries true times entries (start source)
    let quiet := rollEntries false times entries (start source)
    (traced.printed = quiet.printed ∧
        traced.complete = quiet.complete ∧
        traced.source = quiet.source) ∧
      ∃ accounts : List Account,
        List.Forall₂ (Account.Covers times) entries accounts ∧
          traced.printed.toList = accounts.flatMap Account.printed ∧
          traced.reported.toList = accounts.flatMap (Account.reported true) ∧
          quiet.reported.toList = accounts.flatMap (Account.reported false) := by
  intro traced quiet
  obtain ⟨accounts, last, covers, made⟩ := exists_accounts times entries source
  have loud : traced = ofAccounts true accounts last := made true
  have silent : quiet = ofAccounts false accounts last := made false
  rw [loud, silent]
  exact ⟨⟨rfl, rfl, rfl⟩, accounts, covers, rfl, rfl, rfl⟩

end Session

end DiceCup
