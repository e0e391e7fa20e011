import DiceCup.Proofs.Notation.Grammar
import DiceCup.Proofs.Notation.Reading

/-!
# Numbers and marks by the grammar

A read and the rule for what it reads agree: what is read is written in front of the cursor, and
what is written there is read.  For a signed number the sign decides which way it is written
(`sign_cases`), and the reads that fail leave the tokens as they are.
-/

namespace DiceCup

open Text Notation Notation.Grammar

namespace Cursor

/-! ## Reads and rules -/

/-- A number that is read is written. -/
theorem uint_of_number
    {cursor : Cursor}
    {value : UInt32}
    (read : cursor.number.1 = some value) :
    ∃ used : List Token,
      Uint used value ∧ tokens cursor.rest = used ++ tokens cursor.number.2.rest := by
  rw [tokens_number, read]
  rw [fst_number] at read
  cases shape : tokens cursor.rest with
  | nil =>
      rw [shape] at read
      cases read
  | cons token others =>
      rw [shape] at read
      cases token with
      | mark char => cases read
      | digits run =>
          rw [numberAhead, Option.bind_eq_some_iff] at read
          obtain ⟨number, numeral, fits⟩ := read
          rw [toUInt32?_eq_some_iff] at fits
          rw [← fits] at numeral
          exact ⟨[.digits run], .digits numeral, rfl⟩

/-- A number that is written is read. -/
theorem number_of_uint
    {cursor : Cursor}
    {used others : List Token}
    {value : UInt32}
    (written : Uint used value)
    (ahead : tokens cursor.rest = used ++ others) :
    cursor.number.1 = some value ∧ tokens cursor.number.2.rest = others := by
  cases written with
  | digits numeral =>
      have read : cursor.number.1 = some value := by
        rw [fst_number, ahead, List.singleton_append, numberAhead, numeral, Option.bind_some,
          toUInt32?_eq_some_iff]
      rw [tokens_number, read, ahead]
      exact ⟨rfl, rfl⟩

/-- A number that is not read leaves the tokens as they are. -/
theorem tokens_of_number_eq_none
    {cursor : Cursor}
    (missing : cursor.number.1 = none) :
    tokens cursor.number.2.rest = tokens cursor.rest := by
  rw [tokens_number, missing]
  rfl

/-- A mark that is read is written. -/
theorem mark_of_literal
    {mark : Char}
    {cursor : Cursor}
    (isMark : IsMark mark)
    (read : (cursor.literal [mark]).1 = true) :
    tokens cursor.rest = .mark mark :: tokens (cursor.literal [mark]).2.rest := by
  rw [tokens_literal isMark, if_pos read]
  rw [fst_literal isMark, beq_iff_eq] at read
  cases shape : tokens cursor.rest with
  | nil =>
      rw [shape] at read
      cases read
  | cons token others =>
      rw [shape] at read
      cases read
      rfl

/-- A mark that is written is read. -/
theorem literal_of_mark
    {mark : Char}
    {cursor : Cursor}
    {others : List Token}
    (isMark : IsMark mark)
    (ahead : tokens cursor.rest = .mark mark :: others) :
    (cursor.literal [mark]).1 = true ∧ tokens (cursor.literal [mark]).2.rest = others := by
  have read : (cursor.literal [mark]).1 = true := by
    rw [fst_literal isMark, ahead]
    exact beq_self_eq_true _
  rw [tokens_literal isMark, if_pos read, ahead]
  exact ⟨read, rfl⟩

/-- A mark that is not written is not read. -/
theorem literal_of_ne
    {mark : Char}
    {cursor : Cursor}
    (isMark : IsMark mark)
    (other : (tokens cursor.rest).head? ≠ some (.mark mark)) :
    (cursor.literal [mark]).1 = false ∧
      tokens (cursor.literal [mark]).2.rest = tokens cursor.rest := by
  have missing : (cursor.literal [mark]).1 = false := by
    rw [fst_literal isMark]
    exact beq_eq_false_iff_ne.mpr other
  rw [tokens_literal isMark, missing]
  exact ⟨rfl, rfl⟩

/-! ## Signs -/

/-- The three ways in which a number with a sign may start. -/
theorem sign_cases
    (cursor : Cursor) :
    (cursor.sign.1 = true ∧
        tokens cursor.rest = .mark '-' :: tokens cursor.sign.2.rest) ∨
      (cursor.sign.1 = false ∧
        tokens cursor.rest = .mark '+' :: tokens cursor.sign.2.rest) ∨
      (cursor.sign.1 = false ∧
        tokens cursor.rest = tokens cursor.sign.2.rest ∧
        ∀ mark ∈ ['-', '+'], (tokens cursor.rest).head? ≠ some (.mark mark)) := by
  have minusMark : IsMark '-' := by decide
  have plusMark : IsMark '+' := by decide
  rw [sign_eq]
  by_cases minus : (cursor.literal ['-']).1 = true
  · left
    rw [if_pos minus]
    exact ⟨rfl, mark_of_literal minusMark minus⟩
  · right
    rw [if_neg minus]
    by_cases plus : (cursor.skipBlanks.literal ['+']).1 = true
    · left
      rw [← tokens_skipBlanks]
      exact ⟨rfl, mark_of_literal plusMark plus⟩
    · right
      rw [tokens_literal plusMark, if_neg plus, tokens_skipBlanks]
      rw [fst_literal minusMark, beq_iff_eq] at minus
      rw [fst_literal plusMark, beq_iff_eq, tokens_skipBlanks] at plus
      refine ⟨rfl, rfl, ?_⟩
      intro mark member
      simp only [List.mem_cons, List.not_mem_nil, or_false] at member
      rcases member with rfl | rfl
      · exact minus
      · exact plus

theorem applySign_eq_some_iff
    {negative : Bool}
    {magnitude : UInt32}
    {bonus : Int32} :
    applySign negative magnitude = some bonus ↔
      bonus.toInt = if negative then -(magnitude.toNat : Int) else magnitude.toNat := by
  rw [applySign, toInt32?_eq_some_iff]

/-- A bonus that is read is written. -/
theorem bonus_of_signed
    {cursor : Cursor}
    {bonus : Int32}
    (read : cursor.signed.1 = some bonus) :
    ∃ used : List Token,
      Bonus used bonus ∧ tokens cursor.rest = used ++ tokens cursor.signed.2.rest := by
  rw [signed_eq] at read ⊢
  cases value : cursor.skipBlanks.sign.2.number.1.bind (applySign cursor.skipBlanks.sign.1) with
  | none =>
      rw [value] at read
      cases read
  | some other =>
      rw [value] at read
      cases read
      rw [Option.bind_eq_some_iff] at value
      obtain ⟨magnitude, number, fits⟩ := value
      rw [applySign_eq_some_iff] at fits
      obtain ⟨used, written, ahead⟩ := uint_of_number number
      rw [← tokens_skipBlanks]
      rcases cursor.skipBlanks.sign_cases with
        ⟨negative, minus⟩ | ⟨positive, plus⟩ | ⟨positive, plain, -⟩
      · rw [negative, if_pos rfl] at fits
        rw [minus, ahead]
        exact ⟨.mark '-' :: used, .minus written fits, rfl⟩
      · rw [positive, if_neg Bool.false_ne_true] at fits
        rw [plus, ahead]
        exact ⟨.mark '+' :: used, .plus written fits, rfl⟩
      · rw [positive, if_neg Bool.false_ne_true] at fits
        rw [plain, ahead]
        exact ⟨used, .plain written fits, rfl⟩

/-- A bonus that is not read leaves the tokens as they are. -/
theorem tokens_of_signed_eq_none
    {cursor : Cursor}
    (missing : cursor.signed.1 = none) :
    tokens cursor.signed.2.rest = tokens cursor.rest := by
  rw [signed_eq] at missing ⊢
  split at missing
  · cases missing
  · exact cursor.tokens_skipBlanks

/-- A sign and a magnitude in front of a cursor are read together. -/
theorem signed_of_number
    {cursor : Cursor}
    {magnitude : UInt32}
    {bonus : Int32}
    (number : cursor.skipBlanks.sign.2.number.1 = some magnitude)
    (fits :
      bonus.toInt =
        if cursor.skipBlanks.sign.1 then -(magnitude.toNat : Int) else magnitude.toNat) :
    cursor.signed = (some bonus, cursor.skipBlanks.sign.2.number.2) := by
  rw [signed_eq, number, Option.bind_some, applySign_eq_some_iff.mpr fits]

/-- A bonus that is written is read. -/
theorem signed_of_bonus
    {cursor : Cursor}
    {used others : List Token}
    {bonus : Int32}
    (written : Bonus used bonus)
    (ahead : tokens cursor.rest = used ++ others) :
    cursor.signed.1 = some bonus ∧ tokens cursor.signed.2.rest = others := by
  rw [← tokens_skipBlanks] at ahead
  have signs := cursor.skipBlanks.sign_cases
  cases written with
  | plain written fits =>
      rcases signs with ⟨negative, minus⟩ | ⟨positive, plus⟩ | ⟨positive, plain, -⟩
      · rw [minus] at ahead
        cases written with
        | digits => cases ahead
      · rw [plus] at ahead
        cases written with
        | digits => cases ahead
      · rw [plain] at ahead
        obtain ⟨number, left⟩ := number_of_uint written ahead
        rw [signed_of_number number (by rw [positive]; exact fits)]
        exact ⟨rfl, left⟩
  | plus written fits =>
      rcases signs with ⟨negative, minus⟩ | ⟨positive, plus⟩ | ⟨positive, plain, unsigned⟩
      · rw [minus] at ahead
        cases ahead
      · rw [plus, List.cons_append, List.cons.injEq] at ahead
        obtain ⟨number, left⟩ := number_of_uint written ahead.2
        rw [signed_of_number number (by rw [positive]; exact fits)]
        exact ⟨rfl, left⟩
      · rw [ahead] at unsigned
        exact (unsigned '+' (by decide) rfl).elim
  | minus written fits =>
      rcases signs with ⟨negative, minus⟩ | ⟨positive, plus⟩ | ⟨positive, plain, unsigned⟩
      · rw [minus, List.cons_append, List.cons.injEq] at ahead
        obtain ⟨number, left⟩ := number_of_uint written ahead.2
        rw [signed_of_number number (by rw [negative]; exact fits)]
        exact ⟨rfl, left⟩
      · rw [plus] at ahead
        cases ahead
      · rw [ahead] at unsigned
        exact (unsigned '-' (by decide) rfl).elim

end Cursor

end DiceCup
