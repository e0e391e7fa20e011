import DiceCup.Roll.Throw
import DiceCup.Roll.Trace
import DiceCup.Session.Entry

/-!
# Sessions

A session rolls a list of entries one after another.  It keeps the source of dice, the lines that
were printed, the lines that report errors and single dice, and whether every entry so far could be
read.  An entry that cannot be read is reported and left out; the others are rolled
all the same.

Every step takes a session and gives the next one, so that rolling two lists of entries is rolling
the first and then the second.
-/

namespace DiceCup

/-- What has happened so far while entries are rolled. -/
structure Session (σ : Type) where
  source : σ
  printed : Array String
  reported : Array String
  complete : Bool

namespace Session

/-- A session in which nothing has happened. -/
def start
    {σ : Type}
    (source : σ) :
    Session σ where
  source := source
  printed := #[]
  reported := #[]
  complete := true

variable {σ : Type}

/-- Print one line. -/
def print
    (line : String)
    (session : Session σ) :
    Session σ :=
  { session with printed := session.printed.push line }

/-- Report some lines. -/
def report
    (lines : List String)
    (session : Session σ) :
    Session σ :=
  { session with reported := session.reported ++ lines }

/-- The line that shows an expression with its outcome. -/
def resultLine
    (expression : Expression)
    (outcome : Outcome) :
    String :=
  expression.render ++ "  =>  " ++ outcome.render

variable [DieSource σ]

/-- Roll one expression and print its outcome, and report every die if asked to. -/
def rollExpression
    (verbose : Bool)
    (indent : String)
    (session : Session σ)
    (expression : Expression) :
    Session σ :=
  let (outcome, source) := expression.roll.run session.source
  let rolled := print (indent ++ resultLine expression outcome) { session with source }
  if verbose then rolled.report (expression.trace outcome) else rolled

/-- Roll expressions once, below their name if they have one. -/
def rollNamed
    (verbose : Bool)
    (name : Option String)
    (expressions : List Expression)
    (session : Session σ) :
    Session σ :=
  match name with
  | none => expressions.foldl (rollExpression verbose "") session
  | some name => expressions.foldl (rollExpression verbose " ") (session.print name)

/-- Roll an entry so many times, or report why it cannot be read. -/
def rollEntry
    (verbose : Bool)
    (times : Nat)
    (session : Session σ)
    (written : String) :
    Session σ :=
  let entry := Entry.ofString written
  match parse entry.text with
  | .error error =>
    { session.report [s!"Invalid dice string {entry.text}: {error.message}"] with
      complete := false }
  | .ok expressions => Nat.repeat (rollNamed verbose entry.name expressions) times session

/-- Roll entries one after another. -/
def rollEntries
    (verbose : Bool)
    (times : Nat)
    (entries : List String)
    (session : Session σ) :
    Session σ :=
  entries.foldl (rollEntry verbose times) session

/-- Rolling two lists of entries is rolling the first and then the second. -/
theorem rollEntries_append
    (verbose : Bool)
    (times : Nat)
    (first second : List String)
    (session : Session σ) :
    rollEntries verbose times (first ++ second) session =
      rollEntries verbose times second (rollEntries verbose times first session) :=
  List.foldl_append

end Session

end DiceCup
