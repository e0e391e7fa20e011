import DiceCup.Proofs.Notation.Walking

/-!
# Reads that find nothing

The grammar has parts that may be left out.  It tries to read them, and goes on from where it is if
they are not there.  That is sound because a read that finds nothing gives back all that it took:
a sign without a number, or a number that fits no word, is not passed, however far the read has
looked.  Only the blanks in front stay passed (`Walk.step_of_misses`).

Those blanks make no difference, since every read passes them first (`Walk.step_skipBlanks`).
`Walk.run_of_misses` puts both together: whatever is read next answers as if nothing had been tried.
-/

namespace DiceCup

open Text

namespace Cursor

/-! ## Blanks in front of a read -/

theorem exhausted_skipBlanks
    (cursor : Cursor) :
    cursor.skipBlanks.exhausted = cursor.exhausted := by
  simp only [exhausted, skipBlanks_skipBlanks]

theorem number_skipBlanks
    (cursor : Cursor) :
    cursor.skipBlanks.number = cursor.number := by
  simp only [number, skipBlanks_skipBlanks]

theorem signed_skipBlanks
    (cursor : Cursor) :
    cursor.skipBlanks.signed = cursor.signed := by
  simp only [signed, skipBlanks_skipBlanks]

theorem literal_skipBlanks
    (token : List Char)
    (cursor : Cursor) :
    cursor.skipBlanks.literal token = cursor.literal token := by
  simp only [literal, skipBlanks_skipBlanks]

/-- A signed number that is not read leaves the cursor behind the blanks, whatever was in its way. -/
theorem signed_missing
    {cursor here : Cursor}
    (missing : cursor.signed = (none, here)) :
    here = cursor.skipBlanks := by
  rw [signed_eq] at missing
  split at missing
  · cases missing
  · cases missing
    rfl

/-- The blanks that a cursor moves over are all that stand in front of it. -/
theorem exists_blanks_skipBlanks
    (cursor : Cursor) :
    ∃ blanks : List Char,
      AllBlank blanks ∧
        (∀ first ∈ cursor.skipBlanks.rest.head?, isBlank first = false) ∧
        cursor.rest = blanks ++ cursor.skipBlanks.rest ∧
        cursor.skipBlanks.offset = cursor.offset + byteLength blanks := by
  refine ⟨cursor.rest.takeWhile isBlank, allBlank_takeWhile cursor.rest, ?_, ?_, rfl⟩
  · exact isBlank_head_dropBlanks cursor.rest
  · exact List.takeWhile_append_dropWhile.symm

end Cursor

/-! ## Reads that find nothing -/

/-- A read, and the answer that it gives if it finds nothing. -/
inductive Operation.Misses : Operation → Reading → Prop where
  | number : Misses .number (.number none)
  | signed : Misses .signed (.signed none)
  | literal (token : String) : Misses (.literal token) (.verdict false)

/-- An operation that passes the blanks in front of it before it does anything else. -/
inductive Operation.PassesBlanks : Operation → Prop where
  | skip : PassesBlanks .skip
  | exhausted : PassesBlanks .exhausted
  | number : PassesBlanks .number
  | signed : PassesBlanks .signed
  | literal (token : String) : PassesBlanks (.literal token)

namespace Walk

/-- A read that finds nothing passes the blanks, and does nothing else. -/
theorem step_of_misses
    {walk : Walk}
    {operation : Operation}
    (misses : operation.Misses (walk.step operation).1) :
    (walk.step operation).2 = { walk with cursor := walk.cursor.skipBlanks } := by
  generalize answer : (walk.step operation).1 = reading at misses
  cases misses with
  | number =>
      have missing : walk.cursor.number = (none, walk.cursor.number.2) :=
        Prod.ext (Reading.number.inj answer) rfl
      simp only [step, Cursor.number_missing missing]
  | signed =>
      have missing : walk.cursor.signed = (none, walk.cursor.signed.2) :=
        Prod.ext (Reading.signed.inj answer) rfl
      simp only [step, Cursor.signed_missing missing]
  | literal token =>
      have missing :
          walk.cursor.literal token.toList = (false, (walk.cursor.literal token.toList).2) :=
        Prod.ext (Reading.verdict.inj answer) rfl
      simp only [step, Cursor.literal_missing missing]

/-- It makes no difference to an operation whether the blanks were passed before. -/
theorem step_skipBlanks
    (walk : Walk)
    {operation : Operation}
    (passes : operation.PassesBlanks) :
    ({ walk with cursor := walk.cursor.skipBlanks } : Walk).step operation =
      walk.step operation := by
  cases passes with
  | skip => simp only [step, Cursor.skipBlanks_skipBlanks]
  | exhausted => simp only [step, Cursor.exhausted_skipBlanks]
  | number => simp only [step, Cursor.number_skipBlanks]
  | signed => simp only [step, Cursor.signed_skipBlanks]
  | literal token => simp only [step, Cursor.literal_skipBlanks]

/--
A read that finds nothing cannot be noticed.  The marks are kept, and the cursor is moved over the
blanks in front of it and over nothing else.  Whatever passes the blanks comes next, it gives the
same answer and leads to the same walk as if nothing had been tried before, and so does all that
follows then.
-/
theorem run_of_misses
    (walk : Walk)
    {operation : Operation}
    (misses : operation.Misses (walk.step operation).1) :
    let next := (walk.step operation).2
    next.marks = walk.marks ∧
      (∃ blanks after : String,
        AllBlank blanks.toList ∧
          (∀ first ∈ after.toList.head?, isBlank first = false) ∧
          (walk.step .look).1 = .text (blanks ++ after) ∧
          (next.step .look).1 = .text after ∧
          next.cursor.offset = walk.cursor.offset + blanks.utf8ByteSize) ∧
      ∀ (following : Operation) (others : List Operation),
        following.PassesBlanks →
          next.step following = walk.step following ∧
            next.run (following :: others) = walk.run (following :: others) := by
  intro next
  have behind : next = { walk with cursor := walk.cursor.skipBlanks } := step_of_misses misses
  refine ⟨by rw [behind], ?_, ?_⟩
  · obtain ⟨blanks, blank, visible, rest, offset⟩ := walk.cursor.exists_blanks_skipBlanks
    refine ⟨String.ofList blanks, String.ofList walk.cursor.skipBlanks.rest, ?_, ?_, ?_, ?_, ?_⟩
    · rw [String.toList_ofList]
      exact blank
    · rw [String.toList_ofList]
      exact visible
    · rw [step, ← String.ofList_append, ← rest]
    · rw [behind, step]
    · rw [behind, utf8ByteSize_ofList, offset]
  · intro following others passes
    have same : next.step following = walk.step following := by
      rw [behind]
      exact walk.step_skipBlanks passes
    refine ⟨same, ?_⟩
    rw [run, run, same]

/-- A number that fits no signed word is given back with its sign, and can still be read without. -/
theorem run_of_misses_large :
    let walk := Walk.ofText "\u3000+ 2147483648;"
    let next := (walk.step .signed).2
    Operation.Misses .signed (walk.step .signed).1 ∧
      next.cursor.offset = 3 ∧
      (next.run [.literal "+", .number, .mark]).1 =
        [(.verdict true, 4), (.number (some 2147483648), 15), (.mark 0, 15)] := by
  intro walk next
  have misses : Operation.Misses .signed (walk.step .signed).1 := by
    have missed : (walk.step .signed).1 = .signed none := by
      decide +kernel
    rw [missed]
    exact .signed
  obtain ⟨-, -, onward⟩ := run_of_misses walk misses
  obtain ⟨-, same⟩ := onward (.literal "+") [.number, .mark] (.literal "+")
  refine ⟨misses, by decide +kernel, ?_⟩
  rw [same]
  decide +kernel

end Walk

end DiceCup
