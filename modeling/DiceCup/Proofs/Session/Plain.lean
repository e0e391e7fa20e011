import DiceCup.Proofs.Notation.Limits
import DiceCup.Proofs.Session.Rounds
import DiceCup.Random.Tape
import Mathlib.Data.List.Forall2

/-!
# Entries that are plain notations

An entry without an equals sign is a notation and nothing else.  A session of such entries prints
what rolling the notations one after another gives, and so does rolling the one notation in which
they stand with semicolons between them, if it stands for no more expressions than a notation may
(`rollEntries_plain`).  All three draw the same dice, because each of them rolls the expressions of
the first notation, then those of the second, and so on.
-/

namespace DiceCup

open Notation

/-! ## Rolling lists of expressions in order -/

section Rolls

variable {σ : Type} [DieSource σ]

theorem run_rollEach_append
    (expressions others : List Expression)
    (source : σ) :
    let rolled := (rollEach expressions).run source
    let rest := (rollEach others).run rolled.2
    (rollEach (expressions ++ others)).run source = (rolled.1 ++ rest.1, rest.2) :=
  run_mapM_append Expression.roll expressions others source

/-- Lists of expressions are rolled one after another as the one list that they make up. -/
theorem run_rollEach_flatten
    (readings : List (List Expression))
    (source : σ) :
    let rolled := (readings.mapM rollEach).run source
    (rollEach readings.flatten).run source = (rolled.1.flatten, rolled.2) := by
  induction readings generalizing source with
  | nil => rfl
  | cons expressions others inductionHypothesis =>
      simp only [List.flatten_cons, run_rollEach_append, run_mapM_cons, inductionHypothesis]

/-- Each list of outcomes is as long as the list of expressions that it comes from. -/
theorem length_of_mapM_rollEach
    (readings : List (List Expression))
    (source : σ) :
    List.Forall₂ (fun expressions outcomes => outcomes.length = expressions.length)
      readings ((readings.mapM rollEach).run source).1 :=
  forall₂_run_mapM (length_run_mapM Expression.roll) readings source

/-- Notations are rolled as what they stand for. -/
theorem run_mapM_roll_of_parse
    {texts : List String}
    {readings : List (List Expression)}
    (parsed : List.Forall₂ (fun text expressions => parse text = .ok expressions) texts readings)
    (source : σ) :
    let rolled := (readings.mapM rollEach).run source
    (texts.mapM roll).run source = (rolled.1.map .ok, rolled.2) := by
  induction parsed generalizing source with
  | nil => rfl
  | @cons text expressions texts readings first others inductionHypothesis =>
      simp only [run_mapM_cons, run_roll_of_parse first, inductionHypothesis, List.map_cons]

/-- The lines of all lists together are those of the one list. -/
theorem zipWith_flatten_of_length
    {α β γ : Type}
    (write : α → β → γ)
    {lefts : List (List α)}
    {rights : List (List β)}
    (lengths : List.Forall₂ (fun left right => right.length = left.length) lefts rights) :
    (List.zipWith (List.zipWith write) lefts rights).flatten =
      List.zipWith write lefts.flatten rights.flatten := by
  induction lengths with
  | nil => rfl
  | cons same _ inductionHypothesis =>
      rw [List.zipWith_cons_cons, List.flatten_cons, inductionHypothesis, List.flatten_cons,
        List.flatten_cons, List.zipWith_append same.symm]

end Rolls

/-! ## Sessions -/

namespace Session

variable {σ : Type} [DieSource σ]

/-- Entries without an equals sign ask for what they stand for, below no name. -/
theorem filterMap_ofEntry?_plain
    {texts : List String}
    {readings : List (List Expression)}
    (unmarked : ∀ text ∈ texts, '=' ∉ text.toList)
    (parsed : List.Forall₂ (fun text expressions => parse text = .ok expressions) texts readings) :
    texts.filterMap Request.ofEntry? =
      readings.map fun expressions => { name := none, expressions } := by
  induction parsed with
  | nil => rfl
  | @cons text expressions texts readings first others inductionHypothesis =>
      obtain ⟨plain, plainOthers⟩ := List.forall_mem_cons.mp unmarked
      have asked : Request.ofEntry? text = some { name := none, expressions } := by
        simp only [Request.ofEntry?, Entry.ofString_of_unmarked plain, first]
      rw [List.filterMap_cons_some asked, inductionHypothesis plainOthers, List.map_cons]

/-- A round of each list of expressions prints the lines of its outcomes. -/
theorem rollRounds_plain
    (readings : List (List Expression))
    (source : σ) :
    let line (expression : Expression) (outcome : Outcome) : String :=
      expression.render ++ "  =>  " ++ outcome.render
    let rolled := (readings.mapM rollEach).run source
    let rounds :=
      (rollRounds 1 (readings.map fun expressions => { name := none, expressions })).run source
    rounds.1.flatMap Round.lines =
        (List.zipWith (List.zipWith line) readings rolled.1).flatten ∧
      rounds.2 = rolled.2 := by
  intro line
  induction readings generalizing source with
  | nil => exact ⟨rfl, rfl⟩
  | cons expressions others inductionHypothesis =>
      obtain ⟨lines, last⟩ := inductionHypothesis ((rollEach expressions).run source).2
      simp only [List.map_cons, rollRounds_cons, List.replicate_one, run_mapM_cons, run_mapM_nil,
        run_roll]
      refine ⟨?_, last⟩
      rw [List.zipWith_cons_cons, List.flatten_cons, ← lines]
      simp [line, Round.lines, Round.indent]

/--
A session of plain notations prints one line for each expression that they stand for, with an arrow
between the expression and the outcome that rolling the notation gives, and leaves the source that
rolling all of them leaves.  If together they stand for no more expressions than one notation may,
then rolling them as one notation gives the same outcomes and leaves the same source.
-/
theorem rollEntries_plain
    {texts : List String}
    {readings : List (List Expression)}
    (unmarked : ∀ text ∈ texts, '=' ∉ text.toList)
    (parsed : List.Forall₂ (fun text expressions => parse text = .ok expressions) texts readings)
    (verbose : Bool)
    (source : σ) :
    let session := rollEntries verbose 1 texts (start source)
    let joined := String.intercalate ";" texts
    let line (expression : Expression) (outcome : Outcome) : String :=
      expression.render ++ "  =>  " ++ outcome.render
    ∃ outcomes : List (List Outcome),
      (texts.mapM roll).run source = (outcomes.map .ok, session.source) ∧
        List.Forall₂ (fun expressions rolled => rolled.length = expressions.length)
          readings outcomes ∧
        session.printed.toList =
          (List.zipWith (List.zipWith line) readings outcomes).flatten ∧
        (texts ≠ [] →
          readings.flatten.length ≤ 1000 →
            parse joined = .ok readings.flatten ∧
              (roll joined).run source = (.ok outcomes.flatten, session.source) ∧
              session.printed.toList =
                List.zipWith line readings.flatten outcomes.flatten) := by
  intro session joined line
  let outcomes := ((readings.mapM rollEach).run source).1
  have rounds := rollEntries_eq_rounds verbose 1 texts source
  rw [filterMap_ofEntry?_plain unmarked parsed] at rounds
  obtain ⟨lines, last⟩ := rollRounds_plain readings source
  have ends : session.source = ((readings.mapM rollEach).run source).2 := rounds.2.trans last
  have lengths := length_of_mapM_rollEach readings source
  have printed :
      session.printed.toList = (List.zipWith (List.zipWith line) readings outcomes).flatten := by
    rw [← lines, rounds.1]
  refine ⟨outcomes, ?_, lengths, printed, ?_⟩
  · rw [run_mapM_roll_of_parse parsed, ends]
  · intro nonempty few
    have whole := parse_intercalate parsed nonempty few
    refine ⟨whole, ?_, ?_⟩
    · rw [roll, whole, ends]
      exact congrArg (Prod.map Except.ok id) (run_rollEach_flatten readings source)
    · rw [printed, zipWith_flatten_of_length line lengths]

/-- A die and a die that is rolled twice make three lines, as entries and as one notation. -/
theorem rollEntries_plain_repeated :
    let texts := ["D4", "2x d6"]
    let readings := [[Expression.single fourSided], [.single sixSided, .single sixSided]]
    let session := rollEntries false 1 texts (start (Tape.ofWords [3, 5]))
    (∀ text ∈ texts, '=' ∉ text.toList) ∧
      List.Forall₂ (fun text expressions => parse text = .ok expressions) texts readings ∧
      texts ≠ [] ∧
      readings.flatten.length ≤ 1000 ∧
      session.printed.toList.length = 3 ∧
      ∃ outcomes : List Outcome,
        (roll (String.intercalate ";" texts)).run (Tape.ofWords [3, 5]) =
            (.ok outcomes, session.source) ∧
          session.printed.toList =
            List.zipWith
              (fun expression outcome => expression.render ++ "  =>  " ++ outcome.render)
              readings.flatten outcomes := by
  intro texts readings session
  have unmarked : ∀ text ∈ texts, '=' ∉ text.toList := by
    decide +kernel
  have first : parse "D4" = .ok [.single fourSided] := by
    have small : lowered "D4" = ['d', '4'] := by
      decide +kernel
    rw [parse_eq, small, groups_eq, group_eq, chain_eq]
    rfl
  have parsed :
      List.Forall₂ (fun text expressions => parse text = .ok expressions) texts readings :=
    .cons first (.cons parse_two_sixSided .nil)
  have nonempty : texts ≠ [] := List.cons_ne_nil _ _
  have few : readings.flatten.length ≤ 1000 := by
    decide
  obtain ⟨outcomes, -, lengths, -, joined⟩ :=
    rollEntries_plain unmarked parsed false (Tape.ofWords [3, 5])
  obtain ⟨-, rolled, printed⟩ := joined nonempty few
  have three : outcomes.flatten.length = 3 := by
    simp only [readings] at lengths
    rcases lengths with _ | ⟨firstLength, _ | ⟨secondLength, _ | _⟩⟩
    simp [firstLength, secondLength]
  have lines : session.printed.toList.length = 3 := by
    rw [printed, List.length_zipWith, three]
    rfl
  exact ⟨unmarked, parsed, nonempty, few, lines, outcomes.flatten, rolled, printed⟩

end Session

end DiceCup
