import DiceCup.Proofs.Roll.InOrder
import DiceCup.Proofs.Session.Continue
import DiceCup.Proofs.Session.Requests

/-!
# Rounds of a session

An entry that can be read asks for expressions to be rolled, and is rolled in rounds: every round
rolls the expressions once, in order, and is printed below the name of the entry.  The rounds of a
session are one list, over which the source of dice is handed on; what is printed is read off the
rounds when they are over.

`rollEntries_eq_rounds` says that a session prints just that and ends with that source, whatever
entries cannot be read.
-/

namespace DiceCup

/-- A request that was rolled once, with an outcome for each of its expressions. -/
structure Round where
  request : Request
  outcomes : List Outcome

namespace Round

/-- What stands in front of a line with an outcome. -/
def indent
    (round : Round) :
    String :=
  if round.request.name.isSome then " " else ""

/-- The lines that show the outcomes, below the name if there is one. -/
def lines
    (round : Round) :
    List String :=
  round.request.name.toList ++
    List.zipWith
      (fun expression outcome =>
        round.indent ++ (expression.render ++ "  =>  " ++ outcome.render))
      round.request.expressions round.outcomes

/-- The lines about every die. -/
def traces
    (round : Round) :
    List String :=
  (List.zipWith Expression.trace round.request.expressions round.outcomes).flatten

end Round

variable {σ : Type} [DieSource σ]

/-- Roll a request once. -/
def Request.roll
    (request : Request) :
    StateM σ Round := do
  return { request, outcomes := ← rollEach request.expressions }

/-- Roll requests one after another, each so many times before the next one. -/
def rollRounds
    (times : Nat)
    (requests : List Request) :
    StateM σ (List Round) :=
  (requests.flatMap (List.replicate times)).mapM Request.roll

theorem run_roll
    (request : Request)
    (source : σ) :
    let rolled := (rollEach request.expressions).run source
    request.roll.run source = ({ request, outcomes := rolled.1 }, rolled.2) :=
  rfl

/-- A round rolls its request: it has an outcome for each expression. -/
def Round.Rolls
    (round : Round)
    (request : Request) :
    Prop :=
  round.request = request ∧ round.outcomes.length = request.expressions.length

/-- There is one round for every time that a request is rolled, in order. -/
theorem rolls_rollRounds
    (times : Nat)
    (requests : List Request)
    (source : σ) :
    List.Forall₂ Round.Rolls
      ((rollRounds times requests).run source).1 (requests.flatMap (List.replicate times)) := by
  have rolls : ∀ (request : Request) (state : σ), (request.roll.run state).1.Rolls request :=
    fun request state => ⟨rfl, length_run_mapM Expression.roll request.expressions state⟩
  exact (forall₂_run_mapM rolls _ source).flip

theorem rollRounds_cons
    (times : Nat)
    (request : Request)
    (others : List Request)
    (source : σ) :
    let rolled := ((List.replicate times request).mapM Request.roll).run source
    let rest := (rollRounds times others).run rolled.2
    (rollRounds times (request :: others)).run source = (rolled.1 ++ rest.1, rest.2) :=
  run_mapM_append Request.roll _ _ source

namespace Session

variable (verbose : Bool)

/-- The session that some rounds make. -/
def ofRounds
    {σ : Type}
    (rounds : List Round)
    (source : σ) :
    Session σ where
  source := source
  printed := (rounds.flatMap Round.lines).toArray
  reported := if verbose then (rounds.flatMap Round.traces).toArray else #[]
  complete := true

theorem ofRounds_append
    {σ : Type}
    (first second : List Round)
    (middle last : σ) :
    ofRounds verbose (first ++ second) last =
      (ofRounds verbose first middle).join (ofRounds verbose second last) := by
  cases verbose with
  | false => simp [ofRounds, join]
  | true => simp [ofRounds, join]

/-! ## One round -/

theorem report_eq_join
    {σ : Type}
    (lines : List String)
    (session : Session σ) :
    session.report lines =
      session.join { start session.source with reported := lines.toArray } := by
  have reported : session.reported ++ lines = session.reported ++ lines.toArray := by
    rw [← Array.toList_inj, Array.toList_appendList, Array.toList_append, List.toList_toArray]
  simp [report, join, start, reported]

/-- An expression that is rolled adds its line, and the lines about its dice if they are wanted. -/
theorem rollExpression_eq_join
    (indent : String)
    (session : Session σ)
    (expression : Expression) :
    let rolled := expression.roll.run session.source
    rollExpression verbose indent session expression =
      session.join {
        source := rolled.2
        printed := #[indent ++ (expression.render ++ "  =>  " ++ rolled.1.render)]
        reported := if verbose then (expression.trace rolled.1).toArray else #[]
        complete := true } := by
  unfold rollExpression resultLine
  rcases expression.roll.run session.source with ⟨outcome, source⟩
  cases verbose with
  | false => simp [print, join]
  | true => simp [report_eq_join, print, join, start]

/-- Expressions that are rolled add a line each, and the lines about their dice if wanted. -/
theorem foldl_rollExpression
    (indent : String)
    (expressions : List Expression)
    (session : Session σ) :
    let rolled := (rollEach expressions).run session.source
    expressions.foldl (rollExpression verbose indent) session =
      session.join {
        source := rolled.2
        printed :=
          (List.zipWith
            (fun expression outcome =>
              indent ++ (expression.render ++ "  =>  " ++ outcome.render))
            expressions rolled.1).toArray
        reported :=
          if verbose then (List.zipWith Expression.trace expressions rolled.1).flatten.toArray
          else #[]
        complete := true } := by
  induction expressions generalizing session with
  | nil =>
      have nothing : session.join (start session.source) = session := session.join_start
      cases verbose <;> exact nothing.symm
  | cons expression others inductionHypothesis =>
      rw [List.foldl_cons, inductionHypothesis, rollExpression_eq_join, join_assoc]
      simp only [rollEach, run_mapM_cons]
      cases verbose with
      | false => simp [join]
      | true => simp [join]

/-- A request that is rolled once adds its round. -/
theorem rollNamed_eq_join
    (request : Request)
    (session : Session σ) :
    let rolled := request.roll.run session.source
    rollNamed verbose request.name request.expressions session =
      session.join (ofRounds verbose [rolled.1] rolled.2) := by
  rcases request with ⟨name, expressions⟩
  cases name with
  | none =>
      simp [rollNamed, foldl_rollExpression, run_roll, ofRounds, Round.lines, Round.indent,
        Round.traces]
  | some name =>
      simp [rollNamed, foldl_rollExpression, run_roll, ofRounds, Round.lines, Round.indent,
        Round.traces, print, join]

/-! ## Entries -/

variable (times : Nat)

/-- A request that is rolled so many times adds its rounds. -/
theorem repeat_rollNamed_eq_join
    (request : Request)
    (session : Session σ) :
    let rolled := ((List.replicate times request).mapM Request.roll).run session.source
    Nat.repeat (rollNamed verbose request.name request.expressions) times session =
      session.join (ofRounds verbose rolled.1 rolled.2) := by
  induction times with
  | zero =>
      have nothing : session.join (start session.source) = session := session.join_start
      cases verbose <;> exact nothing.symm
  | succ times inductionHypothesis =>
      simp only at inductionHypothesis
      rw [List.replicate_succ', run_mapM_append, Nat.repeat, inductionHypothesis,
        rollNamed_eq_join]
      simp only [join_assoc, source_join]
      congr 1
      exact (ofRounds_append verbose _ _ _ _).symm

/-- The session that an entry makes: its rounds, or the line that reports it. -/
def ofEntry
    (written : String)
    (source : σ) :
    Session σ :=
  match parse (Entry.ofString written).text with
  | .error error =>
    { start source with
      reported := #[Entry.refusal (Entry.ofString written).text error]
      complete := false }
  | .ok expressions =>
    let request := ⟨(Entry.ofString written).name, expressions⟩
    let rolled := ((List.replicate times request).mapM Request.roll).run source
    ofRounds verbose rolled.1 rolled.2

/-- An entry that is rolled, or cannot be read, adds what it makes. -/
theorem rollEntry_eq_join
    (written : String)
    (session : Session σ) :
    rollEntry verbose times session written =
      session.join (ofEntry verbose times written session.source) := by
  cases parsed : parse (Entry.ofString written).text with
  | error error =>
      simp only [rollEntry, ofEntry, parsed, report_eq_join, join, Bool.and_false]
      rfl
  | ok expressions =>
      simp only [rollEntry, ofEntry, parsed]
      exact repeat_rollNamed_eq_join verbose times ⟨_, expressions⟩ session

/-- An entry that can be read makes the rounds of what it asks for. -/
theorem ofEntry_of_request
    {written : String}
    {request : Request}
    (asked : Request.ofEntry? written = some request)
    (source : σ) :
    let rolled := ((List.replicate times request).mapM Request.roll).run source
    ofEntry verbose times written source = ofRounds verbose rolled.1 rolled.2 := by
  unfold Request.ofEntry? at asked
  split at asked
  · cases asked
  next expressions parsed =>
    cases asked
    simp only [ofEntry, parsed]

/-- An entry that cannot be read draws nothing and prints nothing. -/
theorem ofEntry_of_error
    {written : String}
    {error : NotationError}
    (refused : parse (Entry.ofString written).text = .error error)
    (source : σ) :
    ofEntry verbose times written source =
      { source
        printed := #[]
        reported := #[Entry.refusal (Entry.ofString written).text error]
        complete := false } := by
  simp only [ofEntry, refused, start]

/-! ## Runs -/

theorem adds_rollEntries
    (entries : List String) :
    Adds (rollEntries (σ := σ) verbose times entries) :=
  Adds.foldl
    (fun written => adds_of_join (ofEntry verbose times written) fun session =>
      rollEntry_eq_join verbose times written session)
    entries

/-- A run is what its first entry makes, and behind it the run of the others. -/
theorem rollEntries_cons
    (written : String)
    (others : List String)
    (source : σ) :
    let first := ofEntry verbose times written source
    rollEntries verbose times (written :: others) (start source) =
      first.join (rollEntries verbose times others (start first.source)) := by
  have first := rollEntry_eq_join verbose times written (start source)
  rw [start_join] at first
  rw [rollEntries, List.foldl_cons, first]
  exact adds_rollEntries verbose times others _

/--
What a run prints is read off the rounds of the entries that can be read, rolled one after another,
and it ends with the source that they leave.
-/
theorem rollEntries_eq_rounds
    (entries : List String)
    (source : σ) :
    let rolled := (rollRounds times (entries.filterMap Request.ofEntry?)).run source
    let session := rollEntries verbose times entries (start source)
    session.printed = (rolled.1.flatMap Round.lines).toArray ∧ session.source = rolled.2 := by
  induction entries generalizing source with
  | nil => exact ⟨rfl, rfl⟩
  | cons written others inductionHypothesis =>
      simp only [rollEntries_cons]
      cases asked : Request.ofEntry? written with
      | none =>
          obtain ⟨error, refused⟩ := Request.ofEntry?_eq_none_iff.mp asked
          rw [List.filterMap_cons_none asked, ofEntry_of_error verbose times refused]
          simpa [join] using inductionHypothesis source
      | some request =>
          rw [List.filterMap_cons_some asked]
          simp only [rollRounds_cons, ofEntry_of_request verbose times asked, printed_join,
            source_join]
          obtain ⟨printed, last⟩ := inductionHypothesis
            (((List.replicate times request).mapM Request.roll).run source).2
          refine ⟨?_, last⟩
          rw [List.flatMap_append, ← List.append_toArray, ← printed]
          rfl

end Session

end DiceCup
