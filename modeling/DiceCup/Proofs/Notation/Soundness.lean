import DiceCup.Proofs.Notation.Numbers
import DiceCup.Proofs.Notation.Stages

/-!
# What the parser reads is written

Each stage of the parser takes tokens that the rule of its name derives, and what it makes of them is
what the derivation stands for.  A text that is accepted is derived as a whole (`roll_of_parse`).
-/

namespace DiceCup.Notation

open Text Grammar

/-- A number that may be left out is written. -/
theorem optional_of_number
    (cursor : Cursor) :
    ∃ used : List Token,
      Optional Uint 1 used (cursor.number.1.getD 1) ∧
        tokens cursor.rest = used ++ tokens cursor.number.2.rest := by
  cases read : cursor.number.1 with
  | none =>
      rw [Cursor.tokens_of_number_eq_none read]
      exact ⟨[], .absent, rfl⟩
  | some value =>
      obtain ⟨used, written, ahead⟩ := Cursor.uint_of_number read
      exact ⟨used, .present written, ahead⟩

/-- A bonus that may be left out is written. -/
theorem optional_of_signed
    (cursor : Cursor) :
    ∃ used : List Token,
      Optional Bonus 0 used (cursor.signed.1.getD 0) ∧
        tokens cursor.rest = used ++ tokens cursor.signed.2.rest := by
  cases read : cursor.signed.1 with
  | none =>
      rw [Cursor.tokens_of_signed_eq_none read]
      exact ⟨[], .absent, rfl⟩
  | some value =>
      obtain ⟨used, written, ahead⟩ := Cursor.bonus_of_signed read
      exact ⟨used, .present written, ahead⟩

/-- A die that is read is written, and it is the term that it is written as. -/
theorem written_of_die
    {cursor next : Cursor}
    {term : Term}
    (read : die cursor = .ok (term, next)) :
    ∃ (dieTokens bonusTokens : List Token) (count sides : UInt32) (bonus : Int32)
      (valid : WrittenTerm.Valid ⟨count, sides, bonus⟩),
      Die dieTokens count sides ∧ Optional Bonus 0 bonusTokens bonus ∧
        term = WrittenTerm.term ⟨count, sides, bonus⟩ valid ∧
        tokens cursor.rest = dieTokens ++ bonusTokens ++ tokens next.rest := by
  obtain ⟨countTokens, countWritten, countAhead⟩ := optional_of_number cursor.skipBlanks
  rw [Cursor.tokens_skipBlanks] at countAhead
  rw [die_eq] at read
  dsimp only at read
  split at read
  next marked =>
    have markAhead := Cursor.mark_of_literal (by decide) marked
    split at read
    · cases read
    next value sidesRead =>
      obtain ⟨sidesTokens, sidesWritten, sidesAhead⟩ := Cursor.uint_of_number sidesRead
      split at read
      · cases read
      next made =>
        injection read with same
        injection same with sameTerm left
        obtain ⟨valid, means⟩ := WrittenTerm.term_of_make made
        obtain ⟨bonusTokens, bonusWritten, bonusAhead⟩ := optional_of_signed
          ((cursor.skipBlanks.number.2.literal ['d']).2.number.2)
        rw [left] at bonusAhead
        refine ⟨_, bonusTokens, _, _, _, valid, .die countWritten sidesWritten, bonusWritten,
          sameTerm.symm.trans means, ?_⟩
        rw [countAhead, markAhead, sidesAhead, bonusAhead]
        simp only [List.append_assoc, List.cons_append]
  · cases read

/-- A chain that is read is written, and its terms are those that it is written with. -/
theorem written_of_chain
    {position : Nat}
    {cursor next : Cursor}
    {expression : Expression}
    (read : chain position cursor = .ok (expression, next)) :
    ∃ (used : List Token) (first : WrittenTerm) (others : List WrittenTerm)
      (valid : ∀ written ∈ first :: others, written.Valid),
      Dice used first others ∧ expression = chainExpression first others valid ∧
        tokens cursor.rest = used ++ tokens next.rest := by
  fun_induction chain position cursor generalizing expression next with
  | case1 => cases read
  | case2 => cases read
  | case3 position cursor few term afterDie first here alone =>
      cases read
      obtain ⟨dieTokens, bonusTokens, count, sides, bonus, valid, dieWritten, bonusWritten, means,
        ahead⟩ := written_of_die first
      have left : tokens here.rest = tokens afterDie.rest := by
        rw [Cursor.literal_missing alone, Cursor.tokens_skipBlanks]
      rw [left]
      exact ⟨_, _, _, List.forall_mem_singleton.mpr valid, .last dieWritten bonusWritten,
        congrArg Expression.single means, ahead⟩
  | case4 => cases read
  | case5 position cursor few term afterDie first afterMark joined right last tail
      inductionHypothesis =>
      cases read
      obtain ⟨dieTokens, bonusTokens, count, sides, bonus, valid, dieWritten, bonusWritten, means,
        ahead⟩ := written_of_die first
      obtain ⟨chainTokens, second, others, othersValid, chainWritten, chainMeans, chainAhead⟩ :=
        inductionHypothesis tail
      have found : (afterDie.literal ['&']).1 = true := by rw [joined]
      have markAhead := Cursor.mark_of_literal (by decide) found
      rw [joined] at markAhead
      refine ⟨_, _, _, List.forall_mem_cons.mpr ⟨valid, othersValid⟩,
        .joined dieWritten bonusWritten chainWritten, ?_, ?_⟩
      · rw [means, chainMeans]
        rfl
      · rw [ahead, markAhead, chainAhead]
        simp only [List.append_assoc, List.cons_append]

/-- A chain does not join more terms than it may, even if its dice are too many. -/
theorem length_terms_of_chain
    {position : Nat}
    {cursor next : Cursor}
    {expression : Expression}
    (read : chain position cursor = .ok (expression, next)) :
    expression.terms.length + position ≤ maxTerms + 1 := by
  fun_induction chain position cursor generalizing expression next with
  | case1 => cases read
  | case2 => cases read
  | case3 position cursor few term afterDie first here alone =>
      cases read
      rw [Expression.terms_single, List.length_singleton]
      omega
  | case4 => cases read
  | case5 position cursor few term afterDie first afterMark joined right last tail
      inductionHypothesis =>
      cases read
      have others := inductionHypothesis tail
      rw [Expression.terms_combine, Expression.terms_single, List.singleton_append,
        List.length_cons]
      omega

/-- The repetitions of a group are written, or nothing in front of the cursor repeats it. -/
theorem repetitions_cases
    (cursor : Cursor) :
    (∃ (used : List Token) (repeats : UInt32),
        Uint used repeats ∧ (repetitions cursor).1 = repeats.toNat ∧
          tokens cursor.rest = used ++ .mark 'x' :: tokens (repetitions cursor).2.rest) ∨
      ((repetitions cursor).1 = 1 ∧
        tokens (repetitions cursor).2.rest = tokens cursor.rest ∧
        ∀ (used others : List Token) (repeats : UInt32),
          Uint used repeats → tokens cursor.rest ≠ used ++ .mark 'x' :: others) := by
  have xMark : Cursor.IsMark 'x' := by decide
  rw [repetitions_eq]
  cases read : cursor.skipBlanks.number.1 with
  | none =>
      right
      refine ⟨rfl, cursor.tokens_skipBlanks, ?_⟩
      intro used others repeats written ahead
      rw [← Cursor.tokens_skipBlanks] at ahead
      obtain ⟨found, -⟩ := Cursor.number_of_uint written ahead
      rw [read] at found
      cases found
  | some repeats =>
      by_cases marked : (cursor.skipBlanks.number.2.literal ['x']).1 = true
      · left
        obtain ⟨used, written, ahead⟩ := Cursor.uint_of_number read
        have markAhead := Cursor.mark_of_literal xMark marked
        rw [Cursor.tokens_skipBlanks, markAhead] at ahead
        simp only [marked, if_true]
        exact ⟨used, repeats, written, rfl, ahead⟩
      · right
        simp only [marked, if_false, Bool.false_eq_true]
        refine ⟨trivial, cursor.tokens_skipBlanks, ?_⟩
        intro used others repeats written ahead
        rw [← Cursor.tokens_skipBlanks] at ahead
        obtain ⟨-, left⟩ := Cursor.number_of_uint written ahead
        exact marked (Cursor.literal_of_mark xMark left).1

/-- A group that is read is written, and it is within the limits. -/
theorem written_of_group
    {room repeats : Nat}
    {cursor next : Cursor}
    {expression : Expression}
    (read : group room cursor = .ok (repeats, expression, next)) :
    ∃ (used : List Token) (written : WrittenGroup) (valid : written.Valid),
      Group used written ∧ repeats = written.repeats.toNat ∧
        expression = written.expression valid ∧
        tokens cursor.rest = used ++ tokens next.rest := by
  rw [group_eq] at read
  split at read
  · cases read
  · split at read
    · cases read
    next expression last chainRead =>
      split at read
      · cases read
      next fewDice =>
        cases read
        obtain ⟨used, first, others, valid, chainWritten, means, ahead⟩ :=
          written_of_chain chainRead
        have fewTerms := length_terms_of_chain chainRead
        rw [means, terms_chainExpression, List.length_pmap] at fewTerms
        rw [means, diceCount_chainExpression] at fewDice
        have groupValid : ∀ repeats : UInt32, WrittenGroup.Valid ⟨repeats, first, others⟩ :=
          fun _ => ⟨valid, Nat.le_of_succ_le_succ fewTerms, Nat.le_of_not_lt fewDice⟩
        rcases repetitions_cases cursor with
          ⟨repeatsTokens, repeats, repeatsWritten, count, repeatsAhead⟩ | ⟨once, same, -⟩
        · refine ⟨_, _, groupValid repeats, .repeated repeatsWritten chainWritten, count, means, ?_⟩
          rw [repeatsAhead, ahead, List.append_assoc, List.cons_append]
        · rw [← same]
          exact ⟨_, _, groupValid 1, .once chainWritten, once, means, ahead⟩

/-- Groups that are read are written, and what they stand for comes behind what was read before. -/
theorem written_of_groups
    {before result : List Expression}
    {cursor last : Cursor}
    (read : groups before cursor = .ok (result, last)) :
    ∃ (used : List Token) (written : List WrittenGroup)
      (valid : ∀ group ∈ written, group.Valid),
      Roll used written ∧ result = before ++ meaning written valid ∧
        tokens cursor.rest = used ++ tokens last.rest := by
  fun_induction groups before cursor with
  | case1 => cases read
  | case2 before cursor repeats expression afterGroup first expressions next =>
      rename_i alone
      injection read with same
      injection same with sameResult sameLast
      obtain ⟨used, written, valid, groupWritten, rfl, rfl, ahead⟩ := written_of_group first
      rw [← sameLast, Cursor.literal_missing alone, Cursor.tokens_skipBlanks]
      refine ⟨used, [written], List.forall_mem_singleton.mpr valid, .last groupWritten, ?_, ahead⟩
      rw [← sameResult, meaning, List.pmap_cons, List.pmap_nil, List.flatten_singleton]
      rfl
  | case3 before cursor repeats expression afterGroup first expressions afterMark found =>
      rename_i inductionHypothesis
      obtain ⟨used, written, valid, groupWritten, rfl, rfl, ahead⟩ := written_of_group first
      obtain ⟨rollTokens, others, othersValid, rollWritten, means, rollAhead⟩ :=
        inductionHypothesis read
      have marked : (afterGroup.literal [';']).1 = true := by rw [found]
      have markAhead := Cursor.mark_of_literal (by decide) marked
      rw [found] at markAhead
      refine ⟨_, _, List.forall_mem_cons.mpr ⟨valid, othersValid⟩, .more groupWritten rollWritten,
        ?_, ?_⟩
      · rw [means, List.append_assoc, meaning, meaning, List.pmap_cons, List.flatten_cons]
        rfl
      · rw [ahead, markAhead, rollAhead, List.append_assoc, List.cons_append]

/-- A notation that is accepted is written. -/
theorem roll_of_parse
    {text : String}
    {expressions : List Expression}
    (parsed : parse text = .ok expressions) :
    ∃ written : List WrittenGroup, Roll (tokens (lowered text)) written := by
  rw [parse_eq] at parsed
  cases alone : groups [] (Cursor.ofText (lowered text)) with
  | error error =>
      rw [alone] at parsed
      cases parsed
  | ok reading =>
      rcases reading with ⟨result, next⟩
      obtain ⟨used, written, -, roll, -, ahead⟩ := written_of_groups alone
      rw [alone, conclude] at parsed
      split at parsed
      next finished =>
        rw [Cursor.rest_skipBlanks_eq_nil_iff.mp finished, List.append_nil,
          Cursor.rest_ofText] at ahead
        rw [ahead]
        exact ⟨written, roll⟩
      · cases parsed

end DiceCup.Notation
