import DiceCup.Proofs.Roll.InOrder
import DiceCup.Proofs.Roll.Line
import DiceCup.Proofs.Roll.Provenance
import DiceCup.Roll.Trace

/-!
# Which die showed which face

The lines about single dice are made when the roll is over.  The outcome keeps all faces in one
list, and the list is cut along the terms again.  Each cut is where one term ended and the next one
began, because the terms are rolled from left to right and every one of them shows as many faces as
it has dice.  So `trace_roll` says that each face is told of the term that showed it, whatever the
nesting and whatever the source.
-/

namespace DiceCup

/-! ## The faces of an outcome -/

/-- The faces of joined outcomes are those of the parts, one part after the other. -/
theorem toList_rolls_foldl_merge
    (outcomes : List Outcome)
    (before : Outcome) :
    (outcomes.foldl Outcome.merge before).rolls.toList =
      before.rolls.toList ++ (outcomes.map fun outcome => outcome.rolls.toList).flatten := by
  induction outcomes generalizing before with
  | nil => simp
  | cons outcome others inductionHypothesis =>
      rw [List.foldl_cons, inductionHypothesis, List.map_cons, List.flatten_cons,
        ← List.append_assoc]
      simp [Outcome.merge]

section Rolls

variable {σ : Type} [DieSource σ]

/-- Terms in a line are rolled one after another, and their outcomes are joined in that order. -/
theorem foldlM_rollNext_eq_mapM
    (terms : List Term)
    (before : Outcome) :
    terms.foldlM Outcome.rollNext before =
      (do return (← terms.mapM Term.roll).foldl Outcome.merge before : StateM σ Outcome) := by
  induction terms generalizing before with
  | nil => rfl
  | cons term others inductionHypothesis =>
      simp only [List.foldlM_cons, List.mapM_cons, Outcome.rollNext, inductionHypothesis,
        bind_assoc, pure_bind, List.foldl_cons]

/-- A roll shows the faces that the terms show one after another, and leaves the same source. -/
theorem toList_rolls_run_roll
    (expression : Expression)
    (source : σ) :
    let alone := (expression.terms.mapM Term.roll).run source
    (expression.roll.run source).1.rolls.toList =
        (alone.1.map fun outcome => outcome.rolls.toList).flatten ∧
      (expression.roll.run source).2 = alone.2 := by
  intro alone
  have joined :
      expression.roll.run source = (alone.1.foldl Outcome.merge Outcome.empty, alone.2) := by
    rw [roll_eq_rollLine, rollLine, foldlM_rollNext_eq_mapM]
    rfl
  rw [joined, toList_rolls_foldl_merge]
  exact ⟨rfl, rfl⟩

/-- Every die that is thrown shows one more face. -/
theorem length_rolls_throwDice
    (sides count : Nat)
    (before : Outcome)
    (source : σ) :
    ((Outcome.throwDice sides count before).run source).1.rolls.toList.length =
      before.rolls.toList.length + count := by
  induction count generalizing before source with
  | zero => rfl
  | succ count inductionHypothesis =>
      let thrown := (DieSource.throw sides).run source
      have next :
          (Outcome.throwDice sides (count + 1) before).run source =
            (Outcome.throwDice sides count (before.push thrown.1)).run thrown.2 :=
        rfl
      rw [next, inductionHypothesis, Outcome.push, Array.toList_push, List.length_append,
        List.length_singleton, Nat.add_assoc, Nat.add_comm 1 count]

/-- Terms that are rolled one after another show as many faces each as they have dice. -/
theorem lengths_mapM_roll
    (terms : List Term)
    (source : σ) :
    List.Forall₂ (fun term faces => faces.length = term.count)
      terms (((terms.mapM Term.roll).run source).1.map fun outcome => outcome.rolls.toList) := by
  rw [List.forall₂_map_right_iff]
  refine forall₂_run_mapM (fun term state => ?_) terms source
  rw [Term.roll, length_rolls_throwDice]
  exact Nat.zero_add _

/-- With a source whose dice show one of their faces, these are sides of the terms. -/
theorem shows_mapM_roll
    [LawfulDieSource σ]
    (terms : List Term)
    (source : σ) :
    List.Forall₂ Term.Shows
      terms (((terms.mapM Term.roll).run source).1.map fun outcome => outcome.rolls.toList) := by
  rw [List.forall₂_map_right_iff]
  refine forall₂_run_mapM (fun term state => ?_) terms source
  obtain ⟨faces, shows, rolled⟩ := exists_faces_of_rollTerm term state
  rw [rolled]
  exact shows

end Rolls

/-! ## Cutting the faces along the terms -/

/-- Faces that come in one block for each term are given back to the terms block by block. -/
theorem deal_flatten
    {terms : List Term}
    {blocks : List (List Nat)}
    (lengths : List.Forall₂ (fun term faces => faces.length = term.count) terms blocks) :
    deal terms blocks.flatten =
      (List.zipWith (fun term faces => faces.map fun face => (term, face))
        terms blocks).flatten := by
  induction lengths with
  | nil => rfl
  | @cons term faces terms blocks first _ inductionHypothesis =>
      rw [deal, List.flatten_cons, ← first, List.take_left, List.drop_left, inductionHypothesis,
        List.zipWith_cons_cons, List.flatten_cons]

/-- If the faces come in one block for each term, every line names the term of its block. -/
theorem trace_of_blocks
    {expression : Expression}
    {outcome : Outcome}
    {blocks : List (List Nat)}
    (faces : outcome.rolls.toList = blocks.flatten)
    (lengths : List.Forall₂ (fun term faces => faces.length = term.count) expression.terms blocks) :
    expression.trace outcome =
      (List.zipWith (fun term faces => faces.map (traceLine term))
        expression.terms blocks).flatten := by
  rw [Expression.trace, faces, deal_flatten lengths, List.map_flatten, List.map_zipWith]
  simp only [List.map_map, Function.comp_def]

/-- There is one line for each die of the terms. -/
theorem length_trace_of_blocks
    {expression : Expression}
    {outcome : Outcome}
    {blocks : List (List Nat)}
    (faces : outcome.rolls.toList = blocks.flatten)
    (lengths : List.Forall₂ (fun term faces => faces.length = term.count) expression.terms blocks) :
    (expression.trace outcome).length = expression.diceCount := by
  have many : blocks.flatten.length = Term.countAll expression.terms :=
    length_flatten_of_lengths lengths
  have given : (deal expression.terms blocks.flatten).map Prod.snd = blocks.flatten :=
    map_snd_deal (Nat.le_of_eq many)
  rw [Expression.trace, faces, List.length_map, Expression.diceCount, ← many,
    ← congrArg List.length given, List.length_map]

/-- Every die of a roll is told of on a line of its own, whatever the source. -/
theorem length_trace_roll
    {σ : Type}
    [DieSource σ]
    (expression : Expression)
    (source : σ) :
    (expression.trace (expression.roll.run source).1).length = expression.diceCount :=
  length_trace_of_blocks (toList_rolls_run_roll expression source).1
    (lengths_mapM_roll expression.terms source)

/--
The trace of a roll names the right die for every face.  Rolling the terms one after another shows
the faces of the roll, block by block, and leaves the same source; the trace is one line for each of
these faces, in order, with the term that showed it.  It has one line for each die, and the face on
a line is a side of the term on it.
-/
theorem trace_roll
    {σ : Type}
    [DieSource σ]
    [LawfulDieSource σ]
    (expression : Expression)
    (source : σ) :
    let rolled := expression.roll.run source
    let alone := (expression.terms.mapM Term.roll).run source
    let blocks := alone.1.map fun outcome => outcome.rolls.toList
    expression.trace rolled.1 =
        (List.zipWith
          (fun term faces => faces.map fun face => term.render ++ ": rolled a " ++ toString face)
          expression.terms blocks).flatten ∧
      rolled.1.rolls.toList = blocks.flatten ∧
      rolled.2 = alone.2 ∧
      (expression.trace rolled.1).length = expression.diceCount ∧
      List.Forall₂ Term.Shows expression.terms blocks := by
  intro rolled alone blocks
  obtain ⟨faces, last⟩ := toList_rolls_run_roll expression source
  have lengths := lengths_mapM_roll expression.terms source
  exact ⟨trace_of_blocks faces lengths, faces, last, length_trace_of_blocks faces lengths,
    shows_mapM_roll expression.terms source⟩

/-- Three single dice, the first two of them in a pair, and behind them three ten-sided dice. -/
def leftPairAndThree :
    Expression :=
  .combine leftPair (.single (WrittenTerm.term ⟨3, 10, 1⟩ ⟨by decide, by decide, by decide⟩))

/-- The six faces of three single dice and of three dice are told on six lines. -/
theorem trace_roll_leftPairAndThree :
    let rolled := leftPairAndThree.roll.run (Tape.ofWords [5, 6])
    LawfulDieSource Tape ∧
      (leftPairAndThree.trace rolled.1).length = 6 ∧
      ∃ blocks : List (List Nat),
        leftPairAndThree.trace rolled.1 =
            (List.zipWith
              (fun term faces =>
                faces.map fun face => term.render ++ ": rolled a " ++ toString face)
              leftPairAndThree.terms blocks).flatten ∧
          List.Forall₂ Term.Shows leftPairAndThree.terms blocks := by
  intro rolled
  obtain ⟨lines, -, -, length, shows⟩ := trace_roll leftPairAndThree (Tape.ofWords [5, 6])
  exact ⟨inferInstance, length, _, lines, shows⟩

end DiceCup
