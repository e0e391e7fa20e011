import DiceCup.Text.Blank
import DiceCup.Text.Extent
import DiceCup.Text.Numeral

/-!
# A cursor over a text

A cursor is a place in a text: how many bytes lie before it, and the characters that follow.  Every
read passes the blanks in front of it first, and that step stays also when the read then fails;
nothing else of a failed read does.

The small lemmas say what each read leaves.  No read makes the rest longer, and a literal that is
found makes it shorter, which is what the recursion of the grammar rests on.
-/

namespace DiceCup

open Text

/-- A place in a text: the bytes before it and the characters after it. -/
@[ext]
structure Cursor where
  offset : Nat
  rest : List Char
  deriving DecidableEq

namespace Cursor

/-- The cursor at the start of a text. -/
def ofText
    (text : List Char) :
    Cursor :=
  { offset := 0, rest := text }

/-- Move over all characters of a kind that come next. -/
def pass
    (cursor : Cursor)
    (kind : Char → Bool) :
    Cursor where
  offset := cursor.offset + byteLength (cursor.rest.takeWhile kind)
  rest := cursor.rest.dropWhile kind

/-- Move over the blanks that come next. -/
def skipBlanks
    (cursor : Cursor) :
    Cursor :=
  cursor.pass isBlank

/-- Whether only blanks are left. -/
def exhausted
    (cursor : Cursor) :
    Bool × Cursor :=
  let start := cursor.skipBlanks
  (start.rest.isEmpty, start)

/-- Read a literal text. -/
def literal
    (token : List Char)
    (cursor : Cursor) :
    Bool × Cursor :=
  let start := cursor.skipBlanks
  if token.isPrefixOf start.rest then
    (true, ⟨start.offset + byteLength token, start.rest.drop token.length⟩)
  else
    (false, start)

/--
Read a number: the longest run of ASCII digits, whose value fits a word of 32 bits.  A longer
number is not read at all.
-/
def number
    (cursor : Cursor) :
    Option UInt32 × Cursor :=
  let start := cursor.skipBlanks
  match (natural? (start.rest.takeWhile Char.isDigit)).bind toUInt32? with
  | some value => (some value, start.pass Char.isDigit)
  | none => (none, start)

/-- Read a sign that may be left out: whether it is a minus. -/
def sign
    (cursor : Cursor) :
    Bool × Cursor :=
  match cursor.literal ['-'] with
  | (true, next) => (true, next)
  | (false, start) => (false, (start.literal ['+']).2)

/-- The value of a magnitude with its sign, if it fits a signed word of 32 bits. -/
def applySign
    (negative : Bool)
    (magnitude : UInt32) :
    Option Int32 :=
  toInt32? (if negative then -(magnitude.toNat : Int) else magnitude.toNat)

/-- Read a number with an optional sign, from which it may be set apart by blanks. -/
def signed
    (cursor : Cursor) :
    Option Int32 × Cursor :=
  let start := cursor.skipBlanks
  let (negative, unsigned) := start.sign
  let (magnitude, next) := unsigned.number
  match magnitude.bind (applySign negative) with
  | some value => (some value, next)
  | none => (none, start)

/-! ## What the reads leave -/

@[simp]
theorem rest_ofText
    (text : List Char) :
    (ofText text).rest = text :=
  rfl

@[simp]
theorem offset_ofText
    (text : List Char) :
    (ofText text).offset = 0 :=
  rfl

@[simp]
theorem rest_skipBlanks
    (cursor : Cursor) :
    cursor.skipBlanks.rest = dropBlanks cursor.rest :=
  rfl

/-- Blanks are skipped once and for all. -/
@[simp]
theorem skipBlanks_skipBlanks
    (cursor : Cursor) :
    cursor.skipBlanks.skipBlanks = cursor.skipBlanks := by
  have visible := isBlank_head_dropBlanks cursor.rest
  have nothing : (dropBlanks cursor.rest).takeWhile isBlank = [] := by
    cases shape : dropBlanks cursor.rest with
    | nil => rfl
    | cons first rest =>
      simp [visible first (by simp [shape])]
  apply Cursor.ext
  · simp only [skipBlanks, pass]
    rw [show cursor.rest.dropWhile isBlank = dropBlanks cursor.rest from rfl, nothing]
    simp
  · simp

theorem length_rest_pass_le
    (cursor : Cursor)
    (kind : Char → Bool) :
    (cursor.pass kind).rest.length ≤ cursor.rest.length :=
  (List.dropWhile_suffix kind).length_le

theorem length_rest_skipBlanks_le
    (cursor : Cursor) :
    cursor.skipBlanks.rest.length ≤ cursor.rest.length :=
  cursor.length_rest_pass_le isBlank

theorem length_rest_literal_le
    (token : List Char)
    (cursor : Cursor) :
    (cursor.literal token).2.rest.length ≤ cursor.rest.length := by
  have blanks := cursor.length_rest_skipBlanks_le
  unfold literal
  dsimp only
  split
  · simp only [List.length_drop]
    omega
  · exact blanks

/-- A literal that is found is taken off the rest. -/
theorem length_rest_literal_lt
    {token : List Char}
    {cursor next : Cursor}
    (nonempty : token ≠ [])
    (found : cursor.literal token = (true, next)) :
    next.rest.length < cursor.rest.length := by
  have blanks := cursor.length_rest_skipBlanks_le
  unfold literal at found
  dsimp only at found
  split at found
  next here =>
    cases found
    have shorter := (List.isPrefixOf_iff_prefix.mp here).length_le
    have positive := List.length_pos_iff.mpr nonempty
    simp only [List.length_drop]
    omega
  next => cases found

theorem length_rest_number_le
    (cursor : Cursor) :
    cursor.number.2.rest.length ≤ cursor.rest.length := by
  have blanks := cursor.length_rest_skipBlanks_le
  unfold number
  dsimp only
  split
  · exact Nat.le_trans (length_rest_pass_le _ _) blanks
  · exact blanks

theorem length_rest_sign_le
    (cursor : Cursor) :
    cursor.sign.2.rest.length ≤ cursor.rest.length := by
  have minus := cursor.length_rest_literal_le ['-']
  unfold sign
  split
  next found => simpa [found] using minus
  next start missing =>
    rw [missing] at minus
    exact Nat.le_trans (start.length_rest_literal_le ['+']) minus

theorem length_rest_signed_le
    (cursor : Cursor) :
    cursor.signed.2.rest.length ≤ cursor.rest.length := by
  have blanks := cursor.length_rest_skipBlanks_le
  have sign := cursor.skipBlanks.length_rest_sign_le
  have number := cursor.skipBlanks.sign.2.length_rest_number_le
  unfold signed
  dsimp only
  split
  · exact Nat.le_trans number (Nat.le_trans sign blanks)
  · exact blanks

end Cursor

end DiceCup
