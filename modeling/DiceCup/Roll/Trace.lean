import DiceCup.Roll.Outcome
import DiceCup.Dice.Expression

/-!
# Which die showed which face

An outcome keeps its faces in one list.  Cutting the list along the terms of the expression, as many
faces for each term as it has dice, gives every face back to the die that showed it.
-/

namespace DiceCup

/-- Give the faces to the terms from left to right, to each as many as it has dice. -/
def deal :
    List Term → List Nat → List (Term × Nat)
  | [], _ => []
  | term :: others, faces =>
    (faces.take term.count).map (fun face => (term, face)) ++
      deal others (faces.drop term.count)

/-- The line that tells about one die. -/
def traceLine
    (term : Term)
    (face : Nat) :
    String :=
  term.render ++ ": rolled a " ++ toString face

/-- The lines that tell about every die of an outcome of the expression. -/
def Expression.trace
    (expression : Expression)
    (outcome : Outcome) :
    List String :=
  (deal expression.terms outcome.rolls.toList).map fun (term, face) => traceLine term face

/-- Faces that are enough for the terms are all given away, in order. -/
theorem map_snd_deal
    {terms : List Term}
    {faces : List Nat}
    (enough : faces.length ≤ Term.countAll terms) :
    (deal terms faces).map Prod.snd = faces := by
  induction terms generalizing faces with
  | nil =>
    have nothing : faces = [] := by
      simpa using enough
    simp [deal, nothing]
  | cons term others inductionHypothesis =>
    have rest : (faces.drop term.count).length ≤ Term.countAll others := by
      simp only [Term.countAll_cons] at enough
      simp only [List.length_drop]
      omega
    simp [deal, inductionHypothesis rest, Function.comp_def]

end DiceCup
