import DiceCup.Session.Basic

/-!
# Going on with a session

What was printed, reported or refused so far has no say in what happens next: a step only adds to a
session, and what it adds depends on the source of dice alone.  `Adds` says so of a step, and `join`
puts what it adds behind what was there.  Steps over a list only add again, so a run is known from
what each of its steps makes of a session in which nothing has happened.
-/

namespace DiceCup.Session

variable {σ : Type}

/-- A session, and behind it another one that was started from its source. -/
def join
    (earlier later : Session σ) :
    Session σ where
  source := later.source
  printed := earlier.printed ++ later.printed
  reported := earlier.reported ++ later.reported
  complete := earlier.complete && later.complete

@[simp]
theorem source_join
    (earlier later : Session σ) :
    (earlier.join later).source = later.source :=
  rfl

@[simp]
theorem printed_join
    (earlier later : Session σ) :
    (earlier.join later).printed = earlier.printed ++ later.printed :=
  rfl

@[simp]
theorem reported_join
    (earlier later : Session σ) :
    (earlier.join later).reported = earlier.reported ++ later.reported :=
  rfl

@[simp]
theorem complete_join
    (earlier later : Session σ) :
    (earlier.join later).complete = (earlier.complete && later.complete) :=
  rfl

theorem join_assoc
    (first second third : Session σ) :
    (first.join second).join third = first.join (second.join third) := by
  simp [join, Array.append_assoc, Bool.and_assoc]

@[simp]
theorem start_join
    (source : σ)
    (session : Session σ) :
    (start source).join session = session := by
  simp [join, start]

@[simp]
theorem join_start
    (session : Session σ) :
    session.join (start session.source) = session := by
  simp [join, start]

/-! ## Steps that only add -/

/-- A step that only adds to a session, and adds what it makes from the source of the session. -/
def Adds
    (step : Session σ → Session σ) :
    Prop :=
  ∀ session : Session σ, step session = session.join (step (start session.source))

namespace Adds

/-- Two steps one after the other. -/
theorem comp
    {first second : Session σ → Session σ}
    (addsFirst : Adds first)
    (addsSecond : Adds second) :
    Adds fun session => second (first session) := by
  intro session
  let alone := first (start session.source)
  have joined : first session = session.join alone := addsFirst session
  calc
    second (first session)
    _ = (session.join alone).join (second (start alone.source)) := by
      rw [addsSecond (first session), joined, source_join]
    _ = session.join (second alone) := by
      rw [join_assoc, ← addsSecond alone]

/-- A step for each item of a list. -/
theorem foldl
    {α : Type}
    {step : Session σ → α → Session σ}
    (adds : ∀ item : α, Adds fun session => step session item)
    (items : List α) :
    Adds (items.foldl step) := by
  induction items with
  | nil => exact fun session => session.join_start.symm
  | cons item others inductionHypothesis => exact (adds item).comp inductionHypothesis

end Adds

/-- A step adds if what it makes is put behind the session. -/
theorem adds_of_join
    {step : Session σ → Session σ}
    (made : σ → Session σ)
    (joins : ∀ session : Session σ, step session = session.join (made session.source)) :
    Adds step := by
  intro session
  rw [joins session, joins (start session.source), start_join]
  rfl

end DiceCup.Session
