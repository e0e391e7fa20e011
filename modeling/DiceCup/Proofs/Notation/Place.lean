import DiceCup.Proofs.Notation.Reach

/-!
# Places in a notation

The parser works on a copy of its text in which ASCII letters are small, and its refusals name
places of the text itself.  A place is told here by the text in front of it and the text behind it.
The parser does not stop inside a run of digits (`Cursor.Leads`), so behind the blanks its cursor is
where a token starts or where the text ends.  Every refusal is placed there (`position_of_parse`).
-/

namespace DiceCup

open Text Notation

namespace Notation

/-! ## Small letters -/

/-- A letter is neither a blank nor a digit, in whichever case it is written. -/
theorem isBlank_isDigit_toLower
    (char : Char) :
    isBlank char.toLower = isBlank char ∧ char.toLower.isDigit = char.isDigit := by
  have letter :
      ∀ other : Char, 65 ≤ other.toNat → other.toNat ≤ 122 →
        isBlank other = false ∧ other.isDigit = false := by
    intro other lower upper
    constructor
    · rw [Bool.eq_false_iff, ne_eq, isBlank_iff]
      omega
    · rw [Bool.eq_false_iff, ne_eq, Char.isDigit_iff_toNat]
      have nine : '9'.toNat = 57 := rfl
      omega
  rcases toLower_cases char with same | ⟨⟨lower, upper⟩, sum⟩
  · rw [same]
    exact ⟨rfl, rfl⟩
  · have small := letter char.toLower (by omega) (by omega)
    have capital := letter char lower (by omega)
    rw [small.1, small.2, capital.1, capital.2]
    exact ⟨rfl, rfl⟩

/-- Runs of digits do not depend on the case of letters. -/
theorem apart_map_toLower
    {left right : List Char} :
    Apart (left.map Char.toLower) (right.map Char.toLower) ↔ Apart left right := by
  simp only [Apart, List.getLast?_map, List.head?_map, Option.mem_def, Option.map_eq_some_iff,
    forall_exists_index, and_imp, forall_apply_eq_imp_iff₂, isBlank_isDigit_toLower]

/-! ## Places in the text itself -/

/-- A text that is cut in two where one of its tokens starts, or at its end. -/
structure Splits
    (text front back : String) :
    Prop where
  text_eq : text = front ++ back
  /-- The part behind the place does not start with a blank. -/
  visible : ∀ first ∈ back.toList.head?, isBlank first = false
  /-- The place is not inside a run of digits. -/
  apart : Apart front.toList back.toList

/-- Where a text is cut before its end, one of its tokens starts. -/
theorem Splits.starts
    {text front back : String}
    (splits : Splits text front back)
    (unfinished : back ≠ "") :
    ∃ token : Token, (front.utf8ByteSize, token) ∈ placedTokens 0 (lowered text) := by
  have apart : Apart (lowered front) (lowered back) := apart_map_toLower.mpr splits.apart
  have visible := splits.visible
  rw [splits.text_eq, lowered_append, placedTokens_append apart, byteLength_lowered,
    Nat.zero_add]
  cases shape : back.toList with
  | nil => exact (unfinished (String.toList_eq_nil_iff.mp shape)).elim
  | cons first rest =>
      rw [shape] at visible
      have firstVisible : isBlank first.toLower = false :=
        (isBlank_isDigit_toLower first).1.trans (visible first rfl)
      rw [lowered, lowered, shape, List.map_cons]
      cases digit : first.toLower.isDigit with
      | true =>
          rw [placedTokens_digit firstVisible digit]
          exact ⟨_, List.mem_append_right _ List.mem_cons_self⟩
      | false =>
          rw [placedTokens_mark firstVisible digit]
          exact ⟨_, List.mem_append_right _ List.mem_cons_self⟩

/-- A cursor behind the blanks cuts the text that its start is in front of. -/
theorem exists_splits
    {text : String}
    {start here : Cursor}
    (whole : start.rest = lowered text)
    (leads : start.Leads here) :
    ∃ front back : String,
      Splits text front back ∧
        here.skipBlanks.offset = start.offset + front.utf8ByteSize ∧
        tokens start.rest = tokens (lowered front) ++ tokens here.rest ∧
        here.skipBlanks.rest = lowered back := by
  obtain ⟨passed, passes⟩ := leads.trans (Cursor.Leads.skipBlanks here)
  have parts := passes.rest_eq
  rw [whole, lowered, List.map_eq_append_iff] at parts
  obtain ⟨front, back, text_eq, rfl, back_eq⟩ := parts
  have loweredFront : lowered (String.ofList front) = front.map Char.toLower := by
    rw [lowered, String.toList_ofList]
  refine ⟨String.ofList front, String.ofList back, ⟨?_, ?_, ?_⟩, ?_, ?_, ?_⟩
  · rw [← String.ofList_append, ← text_eq, String.ofList_toList]
  · intro first member
    have small : first.toLower ∈ here.skipBlanks.rest.head? := by
      rw [← back_eq, List.head?_map]
      rw [String.toList_ofList] at member
      exact Option.mem_map_of_mem Char.toLower member
    rw [← (isBlank_isDigit_toLower first).1]
    exact isBlank_head_dropBlanks here.rest _ small
  · have apart := passes.apart
    rw [← back_eq] at apart
    rw [String.toList_ofList, String.toList_ofList]
    exact apart_map_toLower.mp apart
  · rw [passes.offset_eq, ← loweredFront, byteLength_lowered]
  · rw [passes.tokens_eq, Cursor.tokens_skipBlanks, loweredFront]
  · rw [lowered, String.toList_ofList, back_eq]

/--
Every refusal is placed in the text of its notation: at the end, or where a token of it starts.  A
refusal for what comes behind the last group quotes the text from there on.
-/
theorem position_of_parse
    {text : String}
    {error : NotationError}
    (refused : parse text = .error error) :
    error.position ≤ text.utf8ByteSize ∧
      (String.Pos.Raw.mk error.position).IsValid text ∧
      (error.position = text.utf8ByteSize ∨
        ∃ token : Token, (error.position, token) ∈ placedTokens 0 (lowered text)) ∧
      ∃ front back : String,
        Splits text front back ∧
          error.position = front.utf8ByteSize ∧
          ∀ (position : Nat) (found : String),
            error = .trailing position found →
              found = String.ofList (lowered back) ∧ found ≠ "" := by
  suffices placed : ∃ front back : String,
      Splits text front back ∧
        error.position = front.utf8ByteSize ∧
        ∀ (position : Nat) (found : String),
          error = .trailing position found →
            found = String.ofList (lowered back) ∧ found ≠ "" by
    obtain ⟨front, back, splits, position, found⟩ := placed
    refine ⟨?_, ?_, ?_, front, back, splits, position, found⟩
    · rw [position, splits.text_eq, String.utf8ByteSize_append]
      exact Nat.le_add_right _ _
    · rw [String.Pos.Raw.isValid_iff_exists_append]
      exact ⟨front, back, splits.text_eq, String.Pos.Raw.ext position⟩
    · rw [position]
      by_cases finished : back = ""
      · left
        rw [splits.text_eq, finished, String.append_empty]
      · exact Or.inr (splits.starts finished)
  rcases refused_of_parse refused with inside | ⟨expressions, next, read, unfinished, rfl⟩
  · have agree := lead_groups [] (Cursor.ofText (lowered text))
    rw [inside] at agree
    obtain ⟨_, _, moved⟩ := agree.of_error
    obtain ⟨-, here, leads, position⟩ := moved.position
    obtain ⟨front, back, splits, offset, -, -⟩ :=
      exists_splits (Cursor.rest_ofText _) leads
    refine ⟨front, back, splits, ?_, ?_⟩
    · rw [position, offset, Cursor.offset_ofText, Nat.zero_add]
    · rintro position found rfl
      cases moved
  · obtain ⟨front, back, splits, offset, -, rest⟩ :=
      exists_splits (Cursor.rest_ofText _) (leads_of_groups read)
    refine ⟨front, back, splits, ?_, ?_⟩
    · rw [NotationError.position, offset, Cursor.offset_ofText, Nat.zero_add]
    · rintro position found ⟨⟩
      rw [rest] at unfinished ⊢
      refine ⟨rfl, ?_⟩
      intro nothing
      apply unfinished
      rw [← String.toList_ofList (l := lowered back), nothing]
      rfl

/-- Behind a blank of three bytes, a letter of two bytes is quoted as it is written. -/
theorem position_of_parse_wide_blank :
    parse "2D6\u3000É X" = .error (.trailing 6 "É x") ∧
      (String.Pos.Raw.mk 6).IsValid "2D6\u3000É X" ∧
      ∃ front back : String,
        Splits "2D6\u3000É X" front back ∧
          6 = front.utf8ByteSize ∧ "É x" = String.ofList (lowered back) := by
  have small :
      lowered "2D6\u3000É X" = ['2', 'd', '6', '\u3000', 'É', ' ', 'x'] := by
    decide +kernel
  have refused : parse "2D6\u3000É X" = .error (.trailing 6 "É x") := by
    rw [parse_eq, small, groups_eq, group_eq, chain_eq]
    rfl
  obtain ⟨-, valid, -, front, back, splits, position, found⟩ := position_of_parse refused
  exact ⟨refused, valid, front, back, splits, position, (found 6 "É x" rfl).1⟩

end Notation

end DiceCup
