import DiceCup.Notation.Cursor
import DiceCup.Proofs.Notation.Token

/-!
# What a cursor reads, told in tokens

A cursor has tokens in front of it, and a read looks at the first of them only.  For each read there
is one statement on its answer, which depends on the tokens and not on the blanks between them, and
one on the tokens that it leaves: a read that succeeds takes the first token, and a read that fails
takes none.

The derived forms say how a number or a literal is found from the tokens, and which tokens were in
front of the cursor when one was found.
-/

namespace DiceCup

open Text Notation

namespace Cursor

/-- The tokens in front of a cursor, with their places. -/
def ahead
    (cursor : Cursor) :
    List (Nat × Token) :=
  placedTokens cursor.offset cursor.rest

@[simp]
theorem map_snd_ahead
    (cursor : Cursor) :
    cursor.ahead.map Prod.snd = tokens cursor.rest := by
  rw [ahead, map_snd_placedTokens]

@[simp]
theorem ahead_skipBlanks
    (cursor : Cursor) :
    cursor.skipBlanks.ahead = cursor.ahead := by
  exact placedTokens_dropBlanks cursor.offset cursor.rest

/-- What a cursor that has skipped the blanks has in front of it. -/
inductive Facing : Cursor → Prop where
  | nothing (offset : Nat) : Facing ⟨offset, []⟩
  | digit
      (offset : Nat)
      (first : Char)
      (rest : List Char)
      (visible : isBlank first = false)
      (digit : first.isDigit = true) :
      Facing ⟨offset, first :: rest⟩
  | mark
      (offset : Nat)
      (first : Char)
      (rest : List Char)
      (visible : isBlank first = false)
      (other : first.isDigit = false) :
      Facing ⟨offset, first :: rest⟩

theorem facing_skipBlanks
    (cursor : Cursor) :
    Facing cursor.skipBlanks := by
  have visible : ∀ first ∈ cursor.skipBlanks.rest.head?, isBlank first = false :=
    isBlank_head_dropBlanks cursor.rest
  generalize cursor.skipBlanks = start at visible
  rcases start with ⟨offset, rest⟩
  cases rest with
  | nil => exact Facing.nothing offset
  | cons first rest =>
      have visibleFirst : isBlank first = false := visible first rfl
      cases shape : first.isDigit with
      | true => exact Facing.digit offset first rest visibleFirst shape
      | false => exact Facing.mark offset first rest visibleFirst shape

/-- The first token stands where the blanks end; without one the text ends there. -/
theorem offset_skipBlanks
    (cursor : Cursor) :
    cursor.ahead.head?.map Prod.fst = some cursor.skipBlanks.offset ∨
      cursor.ahead = [] ∧ cursor.skipBlanks.rest = [] := by
  have facing := cursor.facing_skipBlanks
  rw [← ahead_skipBlanks]
  generalize cursor.skipBlanks = start at facing ⊢
  cases facing with
  | nothing offset => exact Or.inr ⟨by simp [ahead], rfl⟩
  | digit offset first rest visible digit =>
      left
      simp [ahead, placedTokens_digit visible digit]
  | mark offset first rest visible other =>
      left
      simp [ahead, placedTokens_mark visible other]

/-! ## Numbers -/

/-- The number that some tokens start with. -/
def numberAhead :
    List Token → Option UInt32
  | .digits run :: _ => (natural? run).bind toUInt32?
  | _ => none

/-- The run of digits that a number is read from is the first token. -/
theorem natural?_takeWhile_skipBlanks
    (cursor : Cursor) :
    (natural? (cursor.skipBlanks.rest.takeWhile Char.isDigit)).bind toUInt32? =
      numberAhead (tokens cursor.rest) := by
  have facing := cursor.facing_skipBlanks
  rw [← map_snd_ahead, ← ahead_skipBlanks]
  generalize cursor.skipBlanks = start at facing ⊢
  cases facing with
  | nothing offset => simp [ahead, numberAhead]
  | digit offset first rest visible digit =>
      simp [ahead, placedTokens_digit visible digit, digit, numberAhead]
  | mark offset first rest visible other =>
      simp [ahead, placedTokens_mark visible other, other, numberAhead]

/-- A number is read by the tokens in front of the cursor. -/
theorem fst_number
    (cursor : Cursor) :
    cursor.number.1 = numberAhead (tokens cursor.rest) := by
  simp only [number, natural?_takeWhile_skipBlanks]
  split <;> simp only [*]

/-- A number that is read is taken off the tokens. -/
theorem ahead_number
    (cursor : Cursor) :
    cursor.number.2.ahead =
      if cursor.number.1.isSome then cursor.ahead.tail else cursor.ahead := by
  have facing := cursor.facing_skipBlanks
  rw [← cursor.ahead_skipBlanks, number]
  generalize cursor.skipBlanks = start at facing ⊢
  split
  next value found =>
    cases facing with
    | nothing offset => simp at found
    | digit offset first rest visible digit =>
        simp [ahead, pass, placedTokens_digit visible digit, digit]
    | mark offset first rest visible other => simp [other] at found
  next missing => simp

/-- A number that is not read leaves the cursor behind the blanks. -/
theorem number_missing
    {cursor here : Cursor}
    (missing : cursor.number = (none, here)) :
    here = cursor.skipBlanks := by
  simp only [number] at missing
  split at missing
  · cases missing
  · cases missing
    rfl

/-! ## Literals -/

/-- A character that stands for itself as a token. -/
def IsMark
    (char : Char) :
    Prop :=
  isBlank char = false ∧ char.isDigit = false

instance
    (char : Char) :
    Decidable (IsMark char) :=
  inferInstanceAs (Decidable (_ ∧ _))

/-- A literal is read by the tokens in front of the cursor. -/
theorem fst_literal
    {mark : Char}
    (isMark : IsMark mark)
    (cursor : Cursor) :
    (cursor.literal [mark]).1 =
      ((tokens cursor.rest).head? == some (.mark mark)) := by
  have facing := cursor.facing_skipBlanks
  rw [← map_snd_ahead, ← ahead_skipBlanks, literal]
  generalize cursor.skipBlanks = start at facing ⊢
  cases facing with
  | nothing offset => simp [ahead]
  | digit offset first rest visible digit =>
      have different : mark ≠ first := by
        rintro rfl
        simp [isMark.2] at digit
      simp [ahead, placedTokens_digit visible digit, different]
  | mark offset first rest visible other =>
      by_cases same : mark = first
      · simp [ahead, placedTokens_mark visible other, same]
      · have different : ¬ first = mark := fun equality => same equality.symm
        simp [ahead, placedTokens_mark visible other, same, different]

/-- A literal that is read is taken off the tokens. -/
theorem ahead_literal
    {mark : Char}
    (isMark : IsMark mark)
    (cursor : Cursor) :
    (cursor.literal [mark]).2.ahead =
      if (cursor.literal [mark]).1 then cursor.ahead.tail else cursor.ahead := by
  have facing := cursor.facing_skipBlanks
  rw [← cursor.ahead_skipBlanks, literal]
  generalize cursor.skipBlanks = start at facing ⊢
  cases facing with
  | nothing offset => simp
  | digit offset first rest visible digit =>
      have different : mark ≠ first := by
        rintro rfl
        simp [isMark.2] at digit
      simp [different]
  | mark offset first rest visible other =>
      by_cases same : mark = first
      · simp [ahead, placedTokens_mark visible other, same]
      · simp [same]

/-- A literal that is not read leaves the cursor behind the blanks. -/
theorem literal_missing
    {token : List Char}
    {cursor here : Cursor}
    (missing : cursor.literal token = (false, here)) :
    here = cursor.skipBlanks := by
  simp only [literal] at missing
  split at missing
  · cases missing
  · cases missing
    rfl

/-! ## Signed numbers -/

/-- A sign is a literal minus, or else a literal plus that may be left out. -/
theorem sign_eq
    (cursor : Cursor) :
    cursor.sign =
      if (cursor.literal ['-']).1 then
        (true, (cursor.literal ['-']).2)
      else
        (false, (cursor.skipBlanks.literal ['+']).2) := by
  rw [sign]
  split
  next found => simp [found]
  next missing => simp [missing, literal_missing missing]

/-- A signed number is a sign and a number, or nothing is read. -/
theorem signed_eq
    (cursor : Cursor) :
    cursor.signed =
      match cursor.skipBlanks.sign.2.number.1.bind (applySign cursor.skipBlanks.sign.1) with
      | some value => (some value, cursor.skipBlanks.sign.2.number.2)
      | none => (none, cursor.skipBlanks) :=
  rfl

/-! ## Tokens without their places -/

theorem tokens_skipBlanks
    (cursor : Cursor) :
    tokens cursor.skipBlanks.rest = tokens cursor.rest := by
  rw [rest_skipBlanks, tokens_dropBlanks]

/-- Nothing but blanks is left when there are no more tokens. -/
theorem rest_skipBlanks_eq_nil_iff
    {cursor : Cursor} :
    cursor.skipBlanks.rest = [] ↔ tokens cursor.rest = [] := by
  rw [rest_skipBlanks, tokens, List.map_eq_nil_iff, placedTokens_eq_nil_iff]

theorem tokens_number
    (cursor : Cursor) :
    tokens cursor.number.2.rest =
      if cursor.number.1.isSome then (tokens cursor.rest).tail else tokens cursor.rest := by
  rw [← map_snd_ahead, ahead_number]
  split <;> simp

theorem tokens_literal
    {mark : Char}
    (isMark : IsMark mark)
    (cursor : Cursor) :
    tokens (cursor.literal [mark]).2.rest =
      if (cursor.literal [mark]).1 then (tokens cursor.rest).tail else tokens cursor.rest := by
  rw [← map_snd_ahead, ahead_literal isMark]
  split <;> simp

/-- In front of the same tokens the same number is read, and the same tokens are left. -/
theorem number_of_tokens_eq
    {left right : Cursor}
    (same : tokens left.rest = tokens right.rest) :
    left.number.1 = right.number.1 ∧
      tokens left.number.2.rest = tokens right.number.2.rest := by
  have value : left.number.1 = right.number.1 := by
    rw [fst_number, fst_number, same]
  refine ⟨value, ?_⟩
  rw [tokens_number, tokens_number, value, same]

/-- In front of the same tokens the same mark is read, and the same tokens are left. -/
theorem literal_of_tokens_eq
    {left right : Cursor}
    {mark : Char}
    (isMark : IsMark mark)
    (same : tokens left.rest = tokens right.rest) :
    (left.literal [mark]).1 = (right.literal [mark]).1 ∧
      tokens (left.literal [mark]).2.rest = tokens (right.literal [mark]).2.rest := by
  have found : (left.literal [mark]).1 = (right.literal [mark]).1 := by
    rw [fst_literal isMark, fst_literal isMark, same]
  refine ⟨found, ?_⟩
  rw [tokens_literal isMark, tokens_literal isMark, found, same]

end Cursor

end DiceCup
