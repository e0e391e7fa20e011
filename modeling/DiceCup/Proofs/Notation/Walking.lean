import DiceCup.Notation.Walk
import DiceCup.Proofs.Notation.Moving
import DiceCup.Proofs.Text.Listing

/-!
# Walks stay in their text

A cursor stands in a text where the text is cut into what was passed and what is left
(`Cursor.Within`).  Every operation but going back moves the cursor over some of the characters that
are left (`Cursor.Advances`), and going back leads to where the cursor stood before; so a walk never
leaves its text and never stops inside a character, whatever is done in whatever order.

A cursor has no memory but its place.  After going back to a mark everything goes on as it would
have gone on from the mark, and all that was done in between shows only in how later marks are
counted (`Walk.Detour`).  `Walk.run_safe` puts this together.
-/

namespace DiceCup

open Text

namespace Cursor

/-- A literal that is found stands behind the blanks, and the cursor is moved right behind it. -/
theorem parts_of_literal
    {token : List Char}
    {cursor next : Cursor}
    (found : cursor.literal token = (true, next)) :
    ∃ blanks : List Char,
      AllBlank blanks ∧
        (∀ first ∈ (token ++ next.rest).head?, isBlank first = false) ∧
        cursor.rest = blanks ++ token ++ next.rest ∧
        next.offset = cursor.offset + byteLength blanks + byteLength token := by
  have moves := movesOver_of_literal found
  have whole := (cursor.movesOver_pass isBlank).trans moves
  have visible := isBlank_head_dropBlanks cursor.rest
  rw [← rest_skipBlanks, moves.rest_eq] at visible
  refine ⟨cursor.rest.takeWhile isBlank, allBlank_takeWhile cursor.rest, visible, whole.rest_eq, ?_⟩
  rw [whole.offset_eq, byteLength_append, Nat.add_assoc]

/-! ## Places in a text -/

/-- A cursor in a text, which is cut there into what was passed and what is left. -/
def Within
    (text : String)
    (cursor : Cursor) :
    Prop :=
  ∃ front : String,
    text = front ++ String.ofList cursor.rest ∧ cursor.offset = front.utf8ByteSize

namespace Within

theorem ofText
    (text : String) :
    Within text (Cursor.ofText text.toList) := by
  refine ⟨"", ?_, rfl⟩
  rw [rest_ofText, String.ofList_toList, String.empty_append]

theorem advance
    {text : String}
    {start next : Cursor}
    (within : Within text start)
    (advances : start.Advances next) :
    Within text next := by
  obtain ⟨front, text_eq, place⟩ := within
  obtain ⟨passed, moves⟩ := advances
  refine ⟨front ++ String.ofList passed, ?_, ?_⟩
  · rw [text_eq, moves.rest_eq, String.ofList_append, String.append_assoc]
  · rw [moves.offset_eq, place, String.utf8ByteSize_append, utf8ByteSize_ofList]

theorem offset_le
    {text : String}
    {cursor : Cursor}
    (within : Within text cursor) :
    cursor.offset ≤ text.utf8ByteSize := by
  obtain ⟨front, text_eq, place⟩ := within
  rw [place, text_eq, String.utf8ByteSize_append]
  exact Nat.le_add_right _ _

/-- The place of a cursor in a text is not inside a character. -/
theorem isValid
    {text : String}
    {cursor : Cursor}
    (within : Within text cursor) :
    (String.Pos.Raw.mk cursor.offset).IsValid text := by
  obtain ⟨front, text_eq, place⟩ := within
  rw [String.Pos.Raw.isValid_iff_exists_append]
  exact ⟨front, String.ofList cursor.rest, text_eq, String.Pos.Raw.ext place⟩

end Within

end Cursor

namespace Walk

/-! ## Staying in the text -/

/-- Every operation but going back moves the cursor forward, or leaves it where it is. -/
theorem advances_step
    (walk : Walk)
    {operation : Operation}
    (onward : ∀ index : Nat, operation ≠ .back index) :
    walk.cursor.Advances (walk.step operation).2.cursor := by
  cases operation with
  | skip => exact .skipBlanks walk.cursor
  | exhausted => exact .skipBlanks walk.cursor
  | number => exact .number walk.cursor
  | signed => exact .signed walk.cursor
  | literal token => exact .literal token.toList walk.cursor
  | mark => exact .refl walk.cursor
  | back index => exact absurd rfl (onward index)
  | look => exact .refl walk.cursor

/-- A walk in a text: the cursor and all marks are places in it. -/
structure Inside
    (text : String)
    (walk : Walk) :
    Prop where
  cursor : walk.cursor.Within text
  marks : ∀ mark ∈ walk.marks, mark.Within text

theorem Inside.ofText
    (text : String) :
    Inside text (Walk.ofText text) where
  cursor := .ofText text
  marks _ member := absurd member (Array.not_mem_empty _)

/-- No operation leaves the text. -/
theorem Inside.step
    {text : String}
    {walk : Walk}
    (inside : walk.Inside text)
    (operation : Operation) :
    (walk.step operation).2.Inside text where
  cursor := by
    cases operation with
    | back index =>
        rw [Walk.step]
        cases found : walk.marks[index]? with
        | none => exact inside.cursor
        | some mark => exact inside.marks mark (Array.mem_of_getElem? found)
    | _ => exact inside.cursor.advance (walk.advances_step fun _ => nofun)
  marks := by
    cases operation with
    | mark =>
        intro mark member
        rcases Array.mem_push.mp member with before | here
        · exact inside.marks mark before
        · exact here ▸ inside.cursor
    | _ => exact inside.marks

/-- No sequence of operations leaves the text. -/
theorem Inside.run
    {text : String}
    {walk : Walk}
    (inside : walk.Inside text)
    (operations : List Operation) :
    (walk.run operations).2.Inside text := by
  induction operations generalizing walk with
  | nil => exact inside
  | cons operation others inductionHypothesis => exact inductionHypothesis (inside.step operation)

/-! ## Going on after a detour -/

/-- The index of a mark, if some marks are counted in before it from a bound on. -/
def countedIn
    (bound extra index : Nat) :
    Nat :=
  if index < bound then index else index + extra

end Walk

/-- The operation that means the same mark when some marks are counted in from a bound on. -/
def Operation.countedIn
    (bound extra : Nat) :
    Operation → Operation
  | .back index => .back (Walk.countedIn bound extra index)
  | operation => operation

/-- The answer that means the same mark when some marks are counted in from a bound on. -/
def Reading.countedIn
    (bound extra : Nat) :
    Reading → Reading
  | .mark index => .mark (Walk.countedIn bound extra index)
  | reading => reading

namespace Walk

/-- Two walks at the same place, of which the second one has some more marks in between. -/
structure Detour
    (before between : Array Cursor)
    (straight detoured : Walk) :
    Prop where
  cursor_eq : detoured.cursor = straight.cursor
  marks_eq :
    ∃ later : Array Cursor,
      straight.marks = before ++ later ∧ detoured.marks = before ++ between ++ later

/-- Marks that both walks have are counted differently and are the same places. -/
theorem Detour.getElem?_marks
    {before between : Array Cursor}
    {straight detoured : Walk}
    (detour : Detour before between straight detoured)
    (index : Nat) :
    detoured.marks[countedIn before.size between.size index]? = straight.marks[index]? := by
  obtain ⟨later, marks, marksDetoured⟩ := detour.marks_eq
  rw [marks, marksDetoured, countedIn]
  split
  next early =>
    rw [Array.append_assoc, Array.getElem?_append_left early, Array.getElem?_append_left early]
  next late =>
    have behind : (before ++ between).size ≤ index + between.size := by
      rw [Array.size_append]
      omega
    rw [Array.getElem?_append_right behind, Array.getElem?_append_right (Nat.le_of_not_lt late),
      Array.size_append, Nat.add_sub_add_right]

/-- One more operation answers the same and leads to the same place. -/
theorem Detour.step
    {before between : Array Cursor}
    {straight detoured : Walk}
    (detour : Detour before between straight detoured)
    (operation : Operation) :
    let again := operation.countedIn before.size between.size
    (detoured.step again).1 =
        (straight.step operation).1.countedIn before.size between.size ∧
      Detour before between (straight.step operation).2 (detoured.step again).2 := by
  have same := detour.cursor_eq
  have marks := detour.marks_eq
  cases operation with
  | skip => exact ⟨rfl, congrArg Cursor.skipBlanks same, marks⟩
  | exhausted =>
      refine ⟨?_, congrArg (fun cursor => cursor.exhausted.2) same, marks⟩
      exact congrArg (fun cursor => Reading.verdict cursor.exhausted.1) same
  | number =>
      refine ⟨?_, congrArg (fun cursor => cursor.number.2) same, marks⟩
      exact congrArg (fun cursor => Reading.number cursor.number.1) same
  | signed =>
      refine ⟨?_, congrArg (fun cursor => cursor.signed.2) same, marks⟩
      exact congrArg (fun cursor => Reading.signed cursor.signed.1) same
  | literal token =>
      refine ⟨?_, congrArg (fun cursor => (cursor.literal token.toList).2) same, marks⟩
      exact congrArg (fun cursor => Reading.verdict (cursor.literal token.toList).1) same
  | look =>
      refine ⟨?_, same, marks⟩
      exact congrArg (fun cursor : Cursor => Reading.text (String.ofList cursor.rest)) same
  | back index =>
      refine ⟨rfl, ?_, marks⟩
      simp only [Operation.countedIn, Walk.step, detour.getElem?_marks, same]
  | mark =>
      obtain ⟨later, straightMarks, detouredMarks⟩ := marks
      refine ⟨?_, same, later.push straight.cursor, ?_, ?_⟩
      · have size : straight.marks.size = before.size + later.size := by
          rw [straightMarks, Array.size_append]
        have sizeDetoured : detoured.marks.size = before.size + between.size + later.size := by
          rw [detouredMarks, Array.size_append, Array.size_append]
        simp only [Operation.countedIn, Walk.step, Reading.countedIn, countedIn, Reading.mark.injEq]
        rw [if_neg (by omega)]
        omega
      · simp only [Walk.step, straightMarks, Array.append_push]
      · simp only [Operation.countedIn, Walk.step, detouredMarks, same, Array.append_push]

/-- All that follows answers the same at the same places. -/
theorem Detour.run
    {before between : Array Cursor}
    {straight detoured : Walk}
    (detour : Detour before between straight detoured)
    (operations : List Operation) :
    (detoured.run (operations.map (.countedIn before.size between.size))).1 =
      (straight.run operations).1.map (Prod.map (.countedIn before.size between.size) id) := by
  induction operations generalizing straight detoured with
  | nil => rfl
  | cons operation others inductionHypothesis =>
      obtain ⟨reading, next⟩ := detour.step operation
      simp only [List.map_cons, Walk.run, inductionHypothesis next, reading, next.cursor_eq,
        Prod.map_apply, id_eq]

/-- Marks are only added behind those that are there. -/
theorem exists_marks_run
    (walk : Walk)
    (operations : List Operation) :
    ∃ added : Array Cursor, (walk.run operations).2.marks = walk.marks ++ added := by
  induction operations generalizing walk with
  | nil => exact ⟨#[], Array.append_empty.symm⟩
  | cons operation others inductionHypothesis =>
      have here : ∃ added : Array Cursor,
          (walk.step operation).2.marks = walk.marks ++ added := by
        cases operation with
        | mark => exact ⟨#[walk.cursor], Array.push_eq_append⟩
        | _ => exact ⟨#[], Array.append_empty.symm⟩
      obtain ⟨added, marks⟩ := here
      obtain ⟨later, marksLater⟩ := inductionHypothesis (walk.step operation).2
      refine ⟨added ++ later, ?_⟩
      rw [Walk.run, marksLater, marks, Array.append_assoc]

/-- Going back to a mark changes nothing but the place, and is a detour from the mark. -/
theorem detour_of_back
    (walk : Walk)
    (between : List Operation) :
    let marked := (walk.step .mark).2
    let away := (marked.run between).2
    let returned := (away.step (.back walk.marks.size)).2
    returned = { away with cursor := marked.cursor } ∧
      ∃ added : Array Cursor,
        away.marks = marked.marks ++ added ∧ Detour marked.marks added marked returned := by
  intro marked away returned
  obtain ⟨added, marks⟩ := marked.exists_marks_run between
  have here : away.marks[walk.marks.size]? = some marked.cursor := by
    rw [marks, Array.getElem?_append_left (by simp [marked, Walk.step])]
    simp [marked, Walk.step]
  have back : returned = { away with cursor := marked.cursor } := by
    simp only [returned, Walk.step, here, Option.getD_some]
  refine ⟨back, added, marks, ?_, #[], ?_, ?_⟩
  · rw [back]
  · rw [Array.append_empty]
  · rw [back, Array.append_empty]
    exact marks

/-! ## Whole walks -/

/-- A literal that is found is read from where the blanks end, and the walk goes on behind it. -/
theorem parts_of_literal
    {walk : Walk}
    {token : String}
    (found : (walk.step (.literal token)).1 = .verdict true) :
    let next := (walk.step (.literal token)).2
    ∃ blanks after : String,
      AllBlank blanks.toList ∧
        (∀ first ∈ (token ++ after).toList.head?, isBlank first = false) ∧
        (walk.step .look).1 = .text (blanks ++ token ++ after) ∧
        (next.step .look).1 = .text after ∧
        next.cursor.offset = walk.cursor.offset + blanks.utf8ByteSize + token.utf8ByteSize := by
  intro next
  have read : walk.cursor.literal token.toList = (true, next.cursor) :=
    Prod.ext (Reading.verdict.inj found) rfl
  obtain ⟨blanks, blank, visible, rest, offset⟩ := Cursor.parts_of_literal read
  refine ⟨String.ofList blanks, String.ofList next.cursor.rest, ?_, ?_, ?_, rfl, ?_⟩
  · rw [String.toList_ofList]
    exact blank
  · rw [String.toList_append, String.toList_ofList]
    exact visible
  · rw [Walk.step, rest, String.ofList_append, String.ofList_append, String.ofList_toList]
  · rw [offset, utf8ByteSize_ofList, byteLength_toList]

/--
What a walk can rely on, whatever was done before.  The cursor is at a place of the text and not
inside a character, and what is left is the text from that place on.  Nothing but going back moves
the cursor back.  A literal that is found stands behind the blanks, and the cursor is moved over
just these blanks and the literal.  Going back to a mark changes nothing but the place, and from
there the same operations give the same answers at the same places as right after the mark, if only
the marks made since are counted in.
-/
theorem run_safe
    (text : String)
    (operations : List Operation) :
    let walk := ((Walk.ofText text).run operations).2
    (walk.cursor.offset ≤ text.utf8ByteSize ∧
        (String.Pos.Raw.mk walk.cursor.offset).IsValid text ∧
        ∃ front back : String,
          text = front ++ back ∧
            walk.cursor.offset = front.utf8ByteSize ∧
            (walk.step .look).1 = .text back) ∧
      (∀ operation : Operation,
        (∀ index : Nat, operation ≠ .back index) →
          walk.cursor.offset ≤ (walk.step operation).2.cursor.offset) ∧
      (∀ token : String,
        let next := (walk.step (.literal token)).2
        (walk.step (.literal token)).1 = .verdict true →
          ∃ blanks after : String,
            AllBlank blanks.toList ∧
              (∀ first ∈ (token ++ after).toList.head?, isBlank first = false) ∧
              (walk.step .look).1 = .text (blanks ++ token ++ after) ∧
              (next.step .look).1 = .text after ∧
              next.cursor.offset =
                walk.cursor.offset + blanks.utf8ByteSize + token.utf8ByteSize) ∧
      ∀ between further : List Operation,
        let marked := (walk.step .mark).2
        let away := (marked.run between).2
        let returned := (away.step (.back walk.marks.size)).2
        let extra := away.marks.size - marked.marks.size
        returned = { away with cursor := marked.cursor } ∧
          (returned.run (further.map (.countedIn marked.marks.size extra))).1 =
            (marked.run further).1.map (Prod.map (.countedIn marked.marks.size extra) id) := by
  intro walk
  have within : walk.cursor.Within text := ((Inside.ofText text).run operations).cursor
  refine ⟨⟨within.offset_le, within.isValid, ?_⟩, ?_, fun token => parts_of_literal, ?_⟩
  · obtain ⟨front, text_eq, place⟩ := within
    exact ⟨front, String.ofList walk.cursor.rest, text_eq, place, rfl⟩
  · intro operation onward
    exact (walk.advances_step onward).offset_le
  · intro between further marked away returned extra
    obtain ⟨back, added, marks, detour⟩ := walk.detour_of_back between
    have many : extra = added.size := by
      have sizes : away.marks.size = marked.marks.size + added.size := by
        rw [← Array.size_append]
        exact congrArg Array.size marks
      omega
    rw [many]
    exact ⟨back, detour.run further⟩

/-- Behind a blank of three bytes a letter of two bytes is found, and found again from the mark. -/
theorem run_safe_wide_blank :
    let walk := ((Walk.ofText "\u3000É1").run [.mark]).2
    let away := ((walk.step .mark).2.run [.literal "É", .mark]).2
    let returned := (away.step (.back 1)).2
    (walk.step (.literal "É")).1 = .verdict true ∧
      (∃ blanks after : String,
        (walk.step .look).1 = .text (blanks ++ "É" ++ after) ∧
          (walk.step (.literal "É")).2.cursor.offset = blanks.utf8ByteSize + 2) ∧
      (returned.run [.literal "É", .mark, .back 3]).1 =
        [(.verdict true, 5), (.mark 3, 5), (.nothing, 5)] := by
  intro walk away returned
  obtain ⟨-, -, literals, detours⟩ := run_safe "\u3000É1" [.mark]
  have found : (walk.step (.literal "É")).1 = .verdict true := by
    decide +kernel
  obtain ⟨blanks, after, -, -, left, -, offset⟩ := literals "É" found
  have straight :
      ((walk.step .mark).2.run [.literal "É", .mark, .back 2]).1 =
        [(.verdict true, 5), (.mark 2, 5), (.nothing, 5)] := by
    decide +kernel
  obtain ⟨-, same⟩ := detours [.literal "É", .mark] [.literal "É", .mark, .back 2]
  refine ⟨found, ⟨blanks, after, left, ?_⟩, ?_⟩
  · rw [offset]
    have start : walk.cursor.offset = 0 := rfl
    have letter : "É".utf8ByteSize = 2 := rfl
    rw [start, letter, Nat.zero_add]
  · rw [straight] at same
    exact same

end Walk

end DiceCup
