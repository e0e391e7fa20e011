import DiceCup.Dice.Term

/-!
# Roll expressions

An expression is a term, or two expressions whose results are added together.  Only the terms from
left to right matter to what is rolled and to what is written; how the pairs are nested does not.
`Expression.ofTerms` gives the nesting that a written expression stands for.
-/

namespace DiceCup

/-- A dice formula: terms joined in pairs. -/
inductive Expression where
  | single (term : Term)
  | combine (left right : Expression)
  deriving DecidableEq

/-- The number of dice of some terms together. -/
def Term.countAll :
    List Term → Nat
  | [] => 0
  | term :: others => term.count + countAll others

@[simp]
theorem Term.countAll_nil :
    Term.countAll [] = 0 :=
  rfl

@[simp]
theorem Term.countAll_cons
    (term : Term)
    (others : List Term) :
    Term.countAll (term :: others) = term.count + Term.countAll others :=
  rfl

@[simp]
theorem Term.countAll_append
    (left right : List Term) :
    Term.countAll (left ++ right) = Term.countAll left + Term.countAll right := by
  induction left with
  | nil => simp
  | cons term others inductionHypothesis =>
    simp [inductionHypothesis, Nat.add_assoc]

namespace Expression

/-- The terms from left to right, which is the order their dice are rolled in. -/
def terms :
    Expression → List Term
  | .single term => [term]
  | .combine left right => left.terms ++ right.terms

/-- The number of dice that one roll of the expression throws. -/
def diceCount
    (expression : Expression) :
    Nat :=
  Term.countAll expression.terms

/-- The written form of an expression, in which the nesting does not show. -/
def render :
    Expression → String
  | .single term => term.render
  | .combine left right => left.render ++ " & " ++ right.render

/-- The expression in which every pair has a single term on its left. -/
def ofTerms
    (first : Term) :
    List Term → Expression
  | [] => .single first
  | second :: others => .combine (.single first) (ofTerms second others)

@[simp]
theorem terms_single
    (term : Term) :
    (single term).terms = [term] :=
  rfl

@[simp]
theorem terms_combine
    (left right : Expression) :
    (combine left right).terms = left.terms ++ right.terms :=
  rfl

@[simp]
theorem terms_ofTerms
    (first : Term)
    (others : List Term) :
    (ofTerms first others).terms = first :: others := by
  induction others generalizing first with
  | nil => rfl
  | cons second others inductionHypothesis =>
    simp [ofTerms, inductionHypothesis]

theorem terms_ne_nil
    (expression : Expression) :
    expression.terms ≠ [] := by
  induction expression with
  | single term => simp
  | combine left right leftNonempty _ => simp [leftNonempty]

@[simp]
theorem diceCount_single
    (term : Term) :
    (single term).diceCount = term.count := by
  simp [diceCount]

@[simp]
theorem diceCount_combine
    (left right : Expression) :
    (combine left right).diceCount = left.diceCount + right.diceCount := by
  simp [diceCount]

end Expression

end DiceCup
