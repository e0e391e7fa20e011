import DiceCup.Dice.Expression
import DiceCup.Notation.Cursor
import DiceCup.Notation.Error

/-!
# Reading dice notation

A notation such as `4x3d8-5 ; 2d6 & d4+1` is a list of groups with semicolons between them.  A group
is a chain of dice joined with ampersands, in front of which a number and an `x` say how many times
it is repeated.  Letters count without their case, and blanks may stand between any two parts.

Every number of groups and every length of a chain is read by recursion on the rest of the text,
which each step makes shorter.
-/

namespace DiceCup

namespace Notation

/-- Read one die: how many, `d`, the number of sides, and a bonus that may be left out. -/
def die
    (cursor : Cursor) :
    Except NotationError (Term × Cursor) :=
  let start := cursor.skipBlanks
  let (count, afterCount) := start.number
  match afterCount.literal ['d'] with
  | (false, here) => .error (.missing here.offset .dieMark)
  | (true, afterMark) =>
    match afterMark.number with
    | (none, here) => .error (.missing here.offset .sides)
    | (some sides, afterSides) =>
      let (bonus, next) := afterSides.signed
      match Term.make (count.getD 1) sides (bonus.getD 0) with
      | .error fault => .error (.invalidDie start.offset fault)
      | .ok term => .ok (term, next)

/-- Reading a die takes something off the rest. -/
theorem length_rest_die_lt
    {cursor next : Cursor}
    {term : Term}
    (read : die cursor = .ok (term, next)) :
    next.rest.length < cursor.rest.length := by
  have blanks := cursor.length_rest_skipBlanks_le
  have count := cursor.skipBlanks.length_rest_number_le
  unfold die at read
  dsimp only at read
  split at read
  next => cases read
  next afterMark found =>
    have mark := Cursor.length_rest_literal_lt (by simp) found
    have sides := afterMark.length_rest_number_le
    split at read
    next => cases read
    next value afterSides number =>
      have bonus := afterSides.length_rest_signed_le
      simp only [number] at sides
      split at read
      next => cases read
      next =>
        cases read
        omega

/--
Read a chain of dice, the first of which is the `position`-th term of its expression.  The chain
leans to the right: what follows the first ampersand is joined first.
-/
def chain
    (position : Nat)
    (cursor : Cursor) :
    Except NotationError (Expression × Cursor) :=
  if maxTerms < position then
    .error (.tooMany cursor.skipBlanks.offset .terms)
  else
    match _first : die cursor with
    | .error error => .error error
    | .ok (term, afterDie) =>
      match _joined : afterDie.literal ['&'] with
      | (false, next) => .ok (.single term, next)
      | (true, afterMark) =>
        match chain (position + 1) afterMark with
        | .error error => .error error
        | .ok (right, next) => .ok (.combine (.single term) right, next)
termination_by cursor.rest.length
decreasing_by
  have dieShorter := length_rest_die_lt _first
  have markShorter := Cursor.length_rest_literal_lt (by simp) _joined
  omega

/-- Reading a chain takes something off the rest. -/
theorem length_rest_chain_lt
    {position : Nat}
    {cursor next : Cursor}
    {expression : Expression}
    (read : chain position cursor = .ok (expression, next)) :
    next.rest.length < cursor.rest.length := by
  fun_induction chain position cursor generalizing expression next with
  | case1 => cases read
  | case2 => cases read
  | case3 _ cursor _ term afterDie first here joined =>
    cases read
    have dieShorter := length_rest_die_lt first
    have literal := afterDie.length_rest_literal_le ['&']
    simp only [joined] at literal
    omega
  | case4 => cases read
  | case5 _ cursor _ term afterDie first afterMark joined right last tail inductionHypothesis =>
    cases read
    have dieShorter := length_rest_die_lt first
    have markShorter := Cursor.length_rest_literal_lt (by simp) joined
    have tailShorter := inductionHypothesis tail
    omega

/-- Read how often a group is repeated: the number in front of an `x`, or once without them. -/
def repetitions
    (cursor : Cursor) :
    Nat × Cursor :=
  let start := cursor.skipBlanks
  match start.number with
  | (none, here) => (1, here)
  | (some count, afterCount) =>
    match afterCount.literal ['x'] with
    | (true, afterMark) => (count.toNat, afterMark)
    | (false, _) => (1, start)

theorem length_rest_repetitions_le
    (cursor : Cursor) :
    (repetitions cursor).2.rest.length ≤ cursor.rest.length := by
  have blanks := cursor.length_rest_skipBlanks_le
  have number := cursor.skipBlanks.length_rest_number_le
  unfold repetitions
  dsimp only
  split
  next here found =>
    rw [found] at number
    exact Nat.le_trans number blanks
  next count afterCount found =>
    have literal := afterCount.length_rest_literal_le ['x']
    rw [found] at number
    split
    next afterMark marked =>
      rw [marked] at literal
      exact Nat.le_trans literal (Nat.le_trans number blanks)
    next => exact blanks

/--
Read a group, given how many expressions there is still room for: its repetitions and its
expression.  Too many repetitions are refused before the dice are looked at.
-/
def group
    (room : Nat)
    (cursor : Cursor) :
    Except NotationError (Nat × Expression × Cursor) :=
  let start := cursor.skipBlanks.offset
  let (repeats, afterRepeats) := repetitions cursor
  if room < repeats then
    .error (.tooMany start .expressions)
  else
    match chain 1 afterRepeats with
    | .error error => .error error
    | .ok (expression, next) =>
      if maxDice < expression.diceCount then
        .error (.tooMany start .dice)
      else
        .ok (repeats, expression, next)

/-- Reading a group takes something off the rest. -/
theorem length_rest_group_lt
    {room repeats : Nat}
    {cursor next : Cursor}
    {expression : Expression}
    (read : group room cursor = .ok (repeats, expression, next)) :
    next.rest.length < cursor.rest.length := by
  have repetitionsShorter := length_rest_repetitions_le cursor
  unfold group at read
  dsimp only at read
  split at read
  next => cases read
  next =>
    split at read
    next => cases read
    next parsed =>
      have chainShorter := length_rest_chain_lt parsed
      split at read
      next => cases read
      next =>
        cases read
        omega

/-- Read groups as long as semicolons follow, after the expressions that were already read. -/
def groups
    (before : List Expression)
    (cursor : Cursor) :
    Except NotationError (List Expression × Cursor) :=
  match _read : group (maxExpressions - before.length) cursor with
  | .error error => .error error
  | .ok (repeats, expression, afterGroup) =>
    let expressions := before ++ List.replicate repeats expression
    match _more : afterGroup.literal [';'] with
    | (false, next) => .ok (expressions, next)
    | (true, afterMark) => groups expressions afterMark
termination_by cursor.rest.length
decreasing_by
  have groupShorter := length_rest_group_lt _read
  have markShorter := Cursor.length_rest_literal_lt (by simp) _more
  omega

/-- Read a whole text, which must hold nothing after its last group. -/
def read
    (text : List Char) :
    Except NotationError (List Expression) :=
  match groups [] (Cursor.ofText text) with
  | .error error => .error error
  | .ok (expressions, next) =>
    match next.exhausted with
    | (true, _) => .ok expressions
    | (false, here) => .error (.trailing here.offset (String.ofList here.rest))

end Notation

/-- The expressions that a notation stands for, in order; ASCII letters count without their case. -/
def parse
    (text : String) :
    Except NotationError (List Expression) :=
  Notation.read (text.toList.map Char.toLower)

end DiceCup
