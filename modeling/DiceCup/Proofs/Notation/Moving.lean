import DiceCup.Proofs.Notation.Reading

/-!
# Cursors that move forward

A read takes characters off the front of the rest of a text and counts their bytes to the place of
the cursor.  `Cursor.MovesOver` says this of the text that is passed, and all that is told about
where reads end is told by it.  Every read moves the cursor over some text, whether it succeeds or
not (`Cursor.Advances`): so no read goes back, and the place where the text ends stays the same.
-/

namespace DiceCup.Cursor

open Text

/-! ## Over a text -/

/-- A cursor that is moved over just this text, which stands in front of it. -/
structure MovesOver
    (start : Cursor)
    (passed : List Char)
    (next : Cursor) :
    Prop where
  rest_eq : start.rest = passed ++ next.rest
  offset_eq : next.offset = start.offset + byteLength passed

namespace MovesOver

theorem refl
    (cursor : Cursor) :
    cursor.MovesOver [] cursor :=
  ⟨rfl, rfl⟩

theorem trans
    {first second third : Cursor}
    {near far : List Char}
    (movesNear : first.MovesOver near second)
    (movesFar : second.MovesOver far third) :
    first.MovesOver (near ++ far) third where
  rest_eq := by
    rw [movesNear.rest_eq, movesFar.rest_eq, List.append_assoc]
  offset_eq := by
    rw [movesFar.offset_eq, movesNear.offset_eq, byteLength_append, Nat.add_assoc]

/-- A cursor that is moved over more moves on over the rest of it. -/
theorem behind
    {first second third : Cursor}
    {near far : List Char}
    (movesNear : first.MovesOver near second)
    (moves : first.MovesOver (near ++ far) third) :
    second.MovesOver far third where
  rest_eq := by
    have same := movesNear.rest_eq.symm.trans moves.rest_eq
    rw [List.append_assoc] at same
    exact List.append_cancel_left same
  offset_eq := by
    rw [moves.offset_eq, movesNear.offset_eq, byteLength_append, Nat.add_assoc]

theorem head?_rest
    {start next : Cursor}
    {first : Char}
    {others : List Char}
    (moves : start.MovesOver (first :: others) next) :
    start.rest.head? = some first := by
  rw [moves.rest_eq, List.cons_append, List.head?_cons]

/-- The text that is passed decides where the cursor is then. -/
theorem unique
    {start first second : Cursor}
    {passed : List Char}
    (movesFirst : start.MovesOver passed first)
    (movesSecond : start.MovesOver passed second) :
    first = second := by
  apply Cursor.ext
  · rw [movesFirst.offset_eq, movesSecond.offset_eq]
  · have same := movesFirst.rest_eq.symm.trans movesSecond.rest_eq
    exact List.append_cancel_left same

end MovesOver

theorem movesOver_pass
    (cursor : Cursor)
    (kind : Char → Bool) :
    cursor.MovesOver (cursor.rest.takeWhile kind) (cursor.pass kind) where
  rest_eq := List.takeWhile_append_dropWhile.symm
  offset_eq := rfl

/-- A literal that is found is passed, from where the blanks end. -/
theorem movesOver_of_literal
    {token : List Char}
    {cursor next : Cursor}
    (found : cursor.literal token = (true, next)) :
    cursor.skipBlanks.MovesOver token next := by
  simp only [literal] at found
  split at found
  next here =>
    cases found
    obtain ⟨after, shape⟩ := List.isPrefixOf_iff_prefix.mp here
    refine ⟨?_, rfl⟩
    rw [← shape, List.drop_left]
  next => cases found

/-! ## Forward -/

/-- A cursor that is moved over some of the characters in front of it, or over none. -/
def Advances
    (start next : Cursor) :
    Prop :=
  ∃ passed : List Char, start.MovesOver passed next

namespace Advances

theorem refl
    (cursor : Cursor) :
    Advances cursor cursor :=
  ⟨[], .refl cursor⟩

theorem trans
    {first second third : Cursor}
    (near : Advances first second)
    (far : Advances second third) :
    Advances first third := by
  obtain ⟨passedNear, movesNear⟩ := near
  obtain ⟨passedFar, movesFar⟩ := far
  exact ⟨passedNear ++ passedFar, movesNear.trans movesFar⟩

theorem offset_le
    {start next : Cursor}
    (advances : Advances start next) :
    start.offset ≤ next.offset := by
  obtain ⟨passed, moves⟩ := advances
  rw [moves.offset_eq]
  exact Nat.le_add_right _ _

theorem pass
    (cursor : Cursor)
    (kind : Char → Bool) :
    Advances cursor (cursor.pass kind) :=
  ⟨_, cursor.movesOver_pass kind⟩

theorem skipBlanks
    (cursor : Cursor) :
    Advances cursor cursor.skipBlanks :=
  pass cursor isBlank

theorem number
    (cursor : Cursor) :
    Advances cursor cursor.number.2 := by
  apply (skipBlanks cursor).trans
  rw [Cursor.number]
  split
  · exact pass _ Char.isDigit
  · exact refl _

theorem literal
    (token : List Char)
    (cursor : Cursor) :
    Advances cursor (cursor.literal token).2 := by
  apply (skipBlanks cursor).trans
  rcases read : cursor.literal token with ⟨found, next⟩
  cases found with
  | false =>
      rw [literal_missing read]
      exact refl _
  | true => exact ⟨token, movesOver_of_literal read⟩

theorem sign
    (cursor : Cursor) :
    Advances cursor cursor.sign.2 := by
  rw [sign_eq]
  split
  · exact literal ['-'] cursor
  · exact (skipBlanks cursor).trans (literal ['+'] cursor.skipBlanks)

/-- A signed number that is not read is given back as a whole, and only the blanks stay passed. -/
theorem signed
    (cursor : Cursor) :
    Advances cursor cursor.signed.2 := by
  apply (skipBlanks cursor).trans
  rw [signed_eq]
  split
  · exact (sign cursor.skipBlanks).trans (number _)
  · exact refl _

/-- The place where the blanks end does not go back either. -/
theorem offset_skipBlanks_le
    {start next : Cursor}
    (advances : Advances start next) :
    start.skipBlanks.offset ≤ next.skipBlanks.offset := by
  obtain ⟨passed, moves⟩ := advances
  have place (cursor : Cursor) :
      cursor.skipBlanks.offset = cursor.offset + byteLength (cursor.rest.takeWhile isBlank) :=
    rfl
  rw [place, place, moves.rest_eq, moves.offset_eq, List.takeWhile_append]
  split
  next every =>
    apply Nat.le_of_eq
    rw [byteLength_append, Nat.add_assoc]
  next stops =>
    have parts := byteLength_takeWhile_add_dropWhile isBlank passed
    omega

end Advances

/-! ## Where a text ends -/

/-- The place at which the text of a cursor ends, which no read changes. -/
def extent
    (cursor : Cursor) :
    Nat :=
  cursor.offset + byteLength cursor.rest

/-- Where the text ends does not change while the cursor moves on. -/
theorem Advances.extent_eq
    {start next : Cursor}
    (advances : Advances start next) :
    next.extent = start.extent := by
  obtain ⟨passed, moves⟩ := advances
  rw [extent, extent, moves.rest_eq, moves.offset_eq, byteLength_append, Nat.add_assoc]

end DiceCup.Cursor
