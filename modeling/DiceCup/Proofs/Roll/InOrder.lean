import Mathlib.Data.List.Forall2

/-!
# One after another

Dice are rolled by actions on a source, and lists of terms, of expressions and of requests are
rolled by running one action for each item, from left to right, each from the state that the one
before it leaves.  These are the laws of such runs, for actions on any state.
-/

namespace DiceCup

variable {τ α β : Type}

theorem run_mapM_nil
    (action : α → StateM τ β)
    (state : τ) :
    (([] : List α).mapM action).run state = ([], state) :=
  rfl

/-- The first action is run first, and the others are run from the state that it leaves. -/
theorem run_mapM_cons
    (action : α → StateM τ β)
    (item : α)
    (others : List α)
    (state : τ) :
    let first := (action item).run state
    let rest := (others.mapM action).run first.2
    ((item :: others).mapM action).run state = (first.1 :: rest.1, rest.2) := by
  rw [List.mapM_cons]
  rfl

theorem run_mapM_append
    (action : α → StateM τ β)
    (items others : List α)
    (state : τ) :
    let first := (items.mapM action).run state
    let rest := (others.mapM action).run first.2
    ((items ++ others).mapM action).run state = (first.1 ++ rest.1, rest.2) := by
  rw [List.mapM_append]
  rfl

theorem length_run_mapM
    (action : α → StateM τ β)
    (items : List α)
    (state : τ) :
    ((items.mapM action).run state).1.length = items.length := by
  induction items generalizing state with
  | nil => rfl
  | cons item others inductionHypothesis =>
      simp only [run_mapM_cons, List.length_cons, inductionHypothesis]

/-- What holds of an item and what its action gives from any state holds throughout a run. -/
theorem forall₂_run_mapM
    {Related : α → β → Prop}
    {action : α → StateM τ β}
    (related : ∀ (item : α) (state : τ), Related item ((action item).run state).1)
    (items : List α)
    (state : τ) :
    List.Forall₂ Related items ((items.mapM action).run state).1 := by
  induction items generalizing state with
  | nil => exact .nil
  | cons item others inductionHypothesis =>
      rw [run_mapM_cons]
      exact .cons (related item state) (inductionHypothesis _)

/-- What the action of every item gives from any state holds of all results of a run. -/
theorem of_mem_run_mapM
    (Holds : β → Prop)
    {action : α → StateM τ β}
    {items : List α}
    (holds : ∀ item ∈ items, ∀ state : τ, Holds ((action item).run state).1)
    {state : τ}
    {result : β}
    (member : result ∈ ((items.mapM action).run state).1) :
    Holds result := by
  induction items generalizing state with
  | nil => cases member
  | cons item others inductionHypothesis =>
      obtain ⟨here, later⟩ := List.forall_mem_cons.mp holds
      rw [run_mapM_cons] at member
      rcases List.mem_cons.mp member with rfl | member
      · exact here state
      · exact inductionHypothesis later member

end DiceCup
