import DiceCup.Notation.Cursor

/-!
# Walks over a text

A walk moves a cursor over a text, one operation at a time, and can mark a place to come back to
it.  Each step answers what was read.
-/

namespace DiceCup

/-- One operation of a walk. -/
inductive Operation where
  /-- Move over blanks. -/
  | skip
  /-- Ask whether only blanks are left. -/
  | exhausted
  /-- Read a number without a sign. -/
  | number
  /-- Read a number that may have a sign. -/
  | signed
  /-- Read a literal text, which may be empty. -/
  | literal (token : String)
  /-- Remember the place. -/
  | mark
  /-- Go back to a remembered place, counted from zero. -/
  | back (index : Nat)
  /-- Look at the text that is left, without moving. -/
  | look
  deriving DecidableEq

/-- What an operation answers. -/
inductive Reading where
  | nothing
  | verdict (holds : Bool)
  | number (value : Option UInt32)
  | signed (value : Option Int32)
  | mark (index : Nat)
  | text (rest : String)
  deriving DecidableEq

/-- A cursor together with the places that were marked, the first one first. -/
structure Walk where
  cursor : Cursor
  marks : Array Cursor

namespace Walk

/-- The walk that has not started yet. -/
def ofText
    (text : String) :
    Walk where
  cursor := Cursor.ofText text.toList
  marks := #[]

/-- Do one operation; going back to a place that was never marked stays where it is. -/
def step
    (walk : Walk) :
    Operation → Reading × Walk
  | .skip => (.nothing, { walk with cursor := walk.cursor.skipBlanks })
  | .exhausted =>
    let (holds, cursor) := walk.cursor.exhausted
    (.verdict holds, { walk with cursor })
  | .number =>
    let (value, cursor) := walk.cursor.number
    (.number value, { walk with cursor })
  | .signed =>
    let (value, cursor) := walk.cursor.signed
    (.signed value, { walk with cursor })
  | .literal token =>
    let (found, cursor) := walk.cursor.literal token.toList
    (.verdict found, { walk with cursor })
  | .mark => (.mark walk.marks.size, { walk with marks := walk.marks.push walk.cursor })
  | .back index => (.nothing, { walk with cursor := walk.marks[index]?.getD walk.cursor })
  | .look => (.text (String.ofList walk.cursor.rest), walk)

/-- Do the operations in order: what each one answers and the offset after it, and the end. -/
def run
    (walk : Walk) :
    List Operation → List (Reading × Nat) × Walk
  | [] => ([], walk)
  | operation :: others =>
    let (reading, next) := walk.step operation
    let (readings, last) := next.run others
    ((reading, next.cursor.offset) :: readings, last)

end Walk

end DiceCup
