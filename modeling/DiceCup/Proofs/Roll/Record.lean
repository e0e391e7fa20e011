import DiceCup.Roll.Throw

/-!
# Rolls with a record

A recorded roll does what a roll does, and writes down every outcome that it makes on the way: a term
that starts with its bonus, a die that is thrown, a pair that is added.  No outcome is made but by
`Step.record`, so nothing is left out of the record.  Apart from the record it is the roll itself, as
`run_recordRoll` says.

`Recorder.Makes` tells what a recorded roll makes and what all its steps satisfy, with one rule for
each way in which recorded rolls are put together.
-/

namespace DiceCup

/-- A step of a roll, which makes an outcome. -/
inductive Step where
  /-- A term starts with its bonus. -/
  | start (bonus : Int)
  /-- A die is thrown after what was thrown before. -/
  | push (before : Outcome) (face : Nat)
  /-- The outcomes of a pair are added. -/
  | merge (left right : Outcome)

/-- The outcome that a step makes. -/
def Step.outcome :
    Step → Outcome
  | .start bonus => .ofModifier (Int64.ofInt bonus)
  | .push before face => before.push face
  | .merge left right => left.merge right

/-- Rolling with a record of the steps, the latest of which is the last one. -/
abbrev Recorder (σ : Type) :=
  StateT (List Step) (StateM σ)

variable {σ : Type}

/-- Do a step, and write it down. -/
def Step.record
    (step : Step) :
    Recorder σ Outcome := do
  modify (· ++ [step])
  return step.outcome

section Recording

variable [DieSource σ]

/-- Throw a number of equal dice after what was thrown before, with a record. -/
def Outcome.recordDice
    (sides : Nat) :
    Nat → Outcome → Recorder σ Outcome
  | 0, outcome => pure outcome
  | count + 1, outcome => do
    let face ← (DieSource.throw sides : StateM σ Nat)
    recordDice sides count (← Step.record (.push outcome face))

/-- Roll the dice of a term, with a record. -/
def Term.recordRoll
    (term : Term) :
    Recorder σ Outcome := do
  Outcome.recordDice term.sides term.count (← Step.record (.start term.bonus))

/-- Roll an expression, its left side first, with a record. -/
def Expression.recordRoll :
    Expression → Recorder σ Outcome
  | .single term => term.recordRoll
  | .combine left right => do
    let first ← left.recordRoll
    let second ← right.recordRoll
    Step.record (.merge first second)

/-- The steps of a roll from a source, in the order in which they are done. -/
def Expression.steps
    (expression : Expression)
    (source : σ) :
    List Step :=
  ((expression.recordRoll.run []).run source).1.2

/-! ## The roll behind the record -/

theorem fst_recordDice
    (sides count : Nat)
    (outcome : Outcome)
    (history : List Step) :
    Prod.fst <$> (Outcome.recordDice sides count outcome).run history =
      (Outcome.throwDice sides count outcome : StateM σ Outcome) := by
  induction count generalizing outcome history with
  | zero => rfl
  | succ count inductionHypothesis =>
      funext source
      exact congrFun (inductionHypothesis _ _) _

theorem fst_recordTerm
    (term : Term)
    (history : List Step) :
    Prod.fst <$> term.recordRoll.run history = (term.roll : StateM σ Outcome) :=
  fst_recordDice _ _ _ _

/-- Without its record a recorded roll is the roll. -/
theorem fst_recordRoll
    (expression : Expression)
    (history : List Step) :
    Prod.fst <$> expression.recordRoll.run history = (expression.roll : StateM σ Outcome) := by
  induction expression generalizing history with
  | single term => exact fst_recordTerm term history
  | combine left right leftHypothesis rightHypothesis =>
      rw [Expression.roll, ← leftHypothesis history]
      simp only [Expression.recordRoll, StateT.run_bind, map_bind, bind_map_left]
      congr
      funext reading
      rw [← rightHypothesis reading.2, bind_map_left]
      rfl

/-- A recorded roll gives the outcome and leaves the source of the roll, and it gives the steps. -/
theorem run_recordRoll
    (expression : Expression)
    (source : σ) :
    (expression.recordRoll.run []).run source =
      (((expression.roll.run source).1, expression.steps source),
        (expression.roll.run source).2) := by
  rw [← fst_recordRoll expression []]
  rfl

end Recording

/-! ## What all steps satisfy -/

variable
  {Sound : Step → Prop}
  {First Second : Type}

/-- A recorded computation that makes values of a kind, and does nothing but sound steps. -/
def Recorder.Makes
    (Sound : Step → Prop)
    (recorder : Recorder σ First)
    (Made : First → Prop) :
    Prop :=
  ∀ (history : List Step) (source : σ),
    (∀ step ∈ history, Sound step) →
      Made ((recorder.run history).run source).1.1 ∧
        ∀ step ∈ ((recorder.run history).run source).1.2, Sound step

namespace Recorder.Makes

theorem pure
    {Made : First → Prop}
    {value : First}
    (made : Made value) :
    Recorder.Makes Sound (Pure.pure value : Recorder σ First) Made := by
  intro history source sound
  exact ⟨made, sound⟩

theorem bind
    {MadeFirst : First → Prop}
    {MadeSecond : Second → Prop}
    {recorder : Recorder σ First}
    {next : First → Recorder σ Second}
    (first : recorder.Makes Sound MadeFirst)
    (second : ∀ value, MadeFirst value → (next value).Makes Sound MadeSecond) :
    Recorder.Makes Sound (recorder >>= next) MadeSecond := by
  intro history source sound
  obtain ⟨made, soundFirst⟩ := first history source sound
  exact second _ made _ _ soundFirst

theorem record
    {Made : Outcome → Prop}
    {step : Step}
    (sound : Sound step)
    (made : Made step.outcome) :
    Recorder.Makes Sound (step.record : Recorder σ Outcome) Made := by
  intro history source soundBefore
  refine ⟨made, fun other member => ?_⟩
  rcases List.mem_append.mp member with before | here
  · exact soundBefore other before
  · rw [List.mem_singleton.mp here]
    exact sound

theorem throw
    [DieSource σ]
    [LawfulDieSource σ]
    {sides : Nat}
    (positive : 0 < sides)
    (fits : sides < UInt32.size) :
    Recorder.Makes Sound (liftM (DieSource.throw (σ := σ) sides) : Recorder σ Nat)
      fun face => 1 ≤ face ∧ face ≤ sides := by
  intro history source sound
  exact ⟨LawfulDieSource.throw_mem positive fits source, sound⟩

end Recorder.Makes

end DiceCup
