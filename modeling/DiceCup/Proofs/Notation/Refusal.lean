import DiceCup.Proofs.Notation.Limits
import DiceCup.Proofs.Notation.Place

/-!
# How a notation is refused

A refusal ends a run of the parser, and what the run had taken until then is written as the grammar
asks for it.  For each stage there is a relation that says, for each of its refusals, which tokens
were taken, which token or limit the refusal is about, and where that is: `DieRefused`,
`ChainRefused` and `GroupRefused`.  The loop over the groups is refused in one of the groups that it
comes to (`exists_turns_of_refused`).
-/

namespace DiceCup

open Text Notation

namespace Notation.Grammar

/-- Dice of a chain with an ampersand behind each of them. -/
inductive Joined : List Token → List WrittenTerm → Prop where
  | nothing : Joined [] []
  | joined
      {dieTokens bonusTokens othersTokens : List Token}
      {count sides : UInt32}
      {bonus : Int32}
      {others : List WrittenTerm}
      (die : Die dieTokens count sides)
      (bonusWritten : Optional Bonus 0 bonusTokens bonus)
      (othersWritten : Joined othersTokens others) :
      Joined (dieTokens ++ bonusTokens ++ .mark '&' :: othersTokens)
        (⟨count, sides, bonus⟩ :: others)

/-- How often tokens say that a group is repeated, and the tokens that are left for its chain. -/
inductive Repeats : List Token → Nat → List Token → Prop where
  | repeated
      {used left : List Token}
      {repeats : UInt32}
      (written : Uint used repeats) :
      Repeats (used ++ .mark 'x' :: left) repeats.toNat left
  | once
      {left : List Token}
      (unrepeated :
        ∀ (used others : List Token) (repeats : UInt32),
          Uint used repeats → left ≠ used ++ .mark 'x' :: others) :
      Repeats left 1 left

/-- The longest chain of dice that tokens start with. -/
inductive LongestDice : List Token → WrittenTerm → List WrittenTerm → Prop where
  | dice
      {used left : List Token}
      {first : WrittenTerm}
      {others : List WrittenTerm}
      (written : Dice used first others)
      (longest :
        ∀ (longer more : List Token) (head : WrittenTerm) (tail : List WrittenTerm),
          Dice longer head tail → used ++ left = longer ++ more → longer.length ≤ used.length) :
      LongestDice (used ++ left) first others

/-- A chain behind joined dice makes one chain with them. -/
theorem Joined.dice
    {used chainTokens : List Token}
    {terms others : List WrittenTerm}
    {first : WrittenTerm}
    (joined : Joined used terms)
    (chain : Dice chainTokens first others) :
    ∃ (head : WrittenTerm) (tail : List WrittenTerm), Dice (used ++ chainTokens) head tail := by
  induction joined with
  | nothing => exact ⟨first, others, chain⟩
  | joined die bonusWritten _ inductionHypothesis =>
      obtain ⟨head, tail, rest⟩ := inductionHypothesis
      have whole := Dice.joined die bonusWritten rest
      rw [← List.cons_append, ← List.append_assoc] at whole
      exact ⟨_, _, whole⟩

/-- What repeats a group stands in front of its chain, whatever the chain is. -/
theorem Repeats.exists_front
    {ahead left : List Token}
    {repeats : Nat}
    (repeated : Repeats ahead repeats left) :
    ∃ front : List Token,
      ahead = front ++ left ∧
        ∀ {chainTokens : List Token} {first : WrittenTerm} {others : List WrittenTerm},
          Dice chainTokens first others →
            ∃ group : WrittenGroup, Group (front ++ chainTokens) group := by
  cases repeated with
  | @repeated used _ _ written =>
      refine ⟨used ++ [.mark 'x'], ?_, ?_⟩
      · rw [List.append_assoc, List.singleton_append]
      · intro chainTokens first others chain
        rw [List.append_assoc, List.singleton_append]
        exact ⟨_, .repeated written chain⟩
  | once => exact ⟨[], rfl, fun chain => ⟨_, .once chain⟩⟩

end Notation.Grammar

namespace Notation

open Grammar

/-- The bonus has no part in why numbers make no term. -/
theorem make_zero_of_make
    {count sides : UInt32}
    {bonus : Int32}
    {fault : Term.Fault}
    (refused : Term.make count sides bonus = .error fault) :
    Term.make count sides 0 = .error fault := by
  unfold Term.make at refused ⊢
  split at refused
  next someDice =>
    rw [dif_pos someDice]
    split at refused
    next fewDice =>
      rw [dif_pos fewDice]
      split at refused
      · cases refused
      next fewSides =>
        rw [dif_neg fewSides]
        exact refused
    next manyDice =>
      rw [dif_neg manyDice]
      exact refused
  next noDice =>
    rw [dif_neg noDice]
    exact refused

/-! ## Dice -/

/-- How a die is refused: a part is missing behind what is written of it, or it makes no term. -/
inductive DieRefused
    (cursor : Cursor) :
    NotationError → Prop where
  | dieMark
      {countTokens : List Token}
      {count : UInt32}
      {here : Cursor}
      (countWritten : Optional Uint 1 countTokens count)
      (leads : cursor.Leads here)
      (ahead : tokens cursor.rest = countTokens ++ tokens here.rest) :
      DieRefused cursor (.missing here.skipBlanks.offset .dieMark)
  | sides
      {countTokens : List Token}
      {count : UInt32}
      {here : Cursor}
      (countWritten : Optional Uint 1 countTokens count)
      (leads : cursor.Leads here)
      (ahead : tokens cursor.rest = countTokens ++ .mark 'd' :: tokens here.rest) :
      DieRefused cursor (.missing here.skipBlanks.offset .sides)
  | invalid
      {dieTokens left : List Token}
      {count sides : UInt32}
      {fault : Term.Fault}
      (written : Die dieTokens count sides)
      (ahead : tokens cursor.rest = dieTokens ++ left)
      (refused : Term.make count sides 0 = .error fault) :
      DieRefused cursor (.invalidDie cursor.skipBlanks.offset fault)

theorem refused_of_die
    {cursor : Cursor}
    {error : NotationError}
    (refused : die cursor = .error error) :
    DieRefused cursor error := by
  obtain ⟨countTokens, countWritten, countAhead⟩ := optional_of_number cursor.skipBlanks
  have leadsCount :=
    (Cursor.Leads.skipBlanks cursor).trans (Cursor.Leads.number cursor.skipBlanks)
  have leadsMark :=
    leadsCount.trans (Cursor.Leads.literal (by decide : Cursor.IsMark 'd') _)
  rw [Cursor.tokens_skipBlanks] at countAhead
  rw [die_eq] at refused
  dsimp only at refused
  split at refused
  next marked =>
    have markAhead := Cursor.mark_of_literal (by decide) marked
    rw [markAhead] at countAhead
    split at refused
    · cases refused
      exact .sides countWritten leadsMark countAhead
    next value sidesRead =>
      obtain ⟨sidesTokens, sidesWritten, sidesAhead⟩ := Cursor.uint_of_number sidesRead
      split at refused
      next fault made =>
        cases refused
        rw [sidesAhead, ← List.cons_append, ← List.append_assoc] at countAhead
        exact .invalid (.die countWritten sidesWritten) countAhead (make_zero_of_make made)
      · cases refused
  next =>
    cases refused
    exact .dieMark countWritten leadsCount countAhead

/-! ## Chains -/

/-- A place in a chain behind some joined dice, all of which make terms. -/
structure InsideChain
    (start : Cursor)
    (terms : List WrittenTerm)
    (here : Cursor) :
    Prop where
  leads : start.Leads here
  valid : ∀ written ∈ terms, written.Valid
  joined : ∃ used : List Token, Joined used terms ∧ tokens start.rest = used ++ tokens here.rest

theorem InsideChain.refl
    (cursor : Cursor) :
    InsideChain cursor [] cursor where
  leads := Cursor.Leads.refl cursor
  valid := List.forall_mem_nil _
  joined := ⟨[], .nothing, rfl⟩

/-- A die that is joined with a chain comes in front of the dice of that chain. -/
theorem InsideChain.after
    {cursor afterDie here : Cursor}
    {term : Term}
    {terms : List WrittenTerm}
    (read : die cursor = .ok (term, afterDie))
    (joined : (afterDie.literal ['&']).1 = true)
    (inside : InsideChain (afterDie.literal ['&']).2 terms here) :
    ∃ first : WrittenTerm, InsideChain cursor (first :: terms) here := by
  obtain ⟨dieTokens, bonusTokens, count, sides, bonus, firstValid, dieWritten, bonusWritten, -,
    ahead⟩ := written_of_die read
  obtain ⟨used, others, othersAhead⟩ := inside.joined
  have leads :=
    (leads_of_die read).trans (Cursor.Leads.literal (by decide : Cursor.IsMark '&') afterDie)
  refine ⟨⟨count, sides, bonus⟩, leads.trans inside.leads,
    List.forall_mem_cons.mpr ⟨firstValid, inside.valid⟩, _,
    .joined dieWritten bonusWritten others, ?_⟩
  rw [ahead, Cursor.mark_of_literal (by decide) joined, othersAhead]
  simp only [List.append_assoc, List.cons_append]

/--
How a chain is refused whose first die is the `position`-th of its expression: behind joined dice
the next die is refused, or there may be no further one.
-/
inductive ChainRefused
    (position : Nat)
    (cursor : Cursor) :
    NotationError → Prop where
  | die
      {terms : List WrittenTerm}
      {here : Cursor}
      {error : NotationError}
      (inside : InsideChain cursor terms here)
      (few : position + terms.length ≤ maxTerms)
      (refused : DieRefused here error) :
      ChainRefused position cursor error
  | crowded
      {terms : List WrittenTerm}
      {here : Cursor}
      (inside : InsideChain cursor terms here)
      (full : position + terms.length = maxTerms + 1) :
      ChainRefused position cursor (.tooMany here.skipBlanks.offset .terms)

theorem refused_of_chain
    {position : Nat}
    {cursor : Cursor}
    {error : NotationError}
    (refused : chain position cursor = .error error)
    (start : position ≤ maxTerms + 1) :
    ChainRefused position cursor error := by
  -- The induction follows the rest of the chain, so each die read on the way comes in front.
  fun_induction chain position cursor with
  | case1 position cursor many =>
      cases refused
      exact .crowded (InsideChain.refl cursor) (Nat.le_antisymm start many)
  | case2 position cursor few other refusedDie =>
      cases refused
      exact .die (InsideChain.refl cursor) (Nat.le_of_not_lt few) (refused_of_die refusedDie)
  | case3 => cases refused
  | case4 position cursor few term afterDie read afterMark joined other refusedChain
      inductionHypothesis =>
      cases refused
      have found : (afterDie.literal ['&']).1 = true := by rw [joined]
      have here : afterMark = (afterDie.literal ['&']).2 := by rw [joined]
      have behind := inductionHypothesis refusedChain (by omega)
      rw [here] at behind
      cases behind with
      | die inside fewBehind refused =>
          obtain ⟨first, further⟩ := inside.after read found
          exact .die further (by rw [List.length_cons]; omega) refused
      | crowded inside full =>
          obtain ⟨first, further⟩ := inside.after read found
          exact .crowded further (by rw [List.length_cons]; omega)
  | case5 => cases refused

/-! ## The longest chain -/

/-- A die is read at least as far as it is written. -/
theorem length_tokens_of_die
    {cursor next : Cursor}
    {term : Term}
    {dieTokens bonusTokens left : List Token}
    {count sides : UInt32}
    {bonus : Int32}
    (read : die cursor = .ok (term, next))
    (dieWritten : Die dieTokens count sides)
    (bonusWritten : Optional Bonus 0 bonusTokens bonus)
    (ahead : tokens cursor.rest = dieTokens ++ bonusTokens ++ left) :
    (tokens next.rest).length ≤ left.length := by
  cases dieWritten with
  | die countWritten sidesWritten =>
      rw [List.append_assoc, List.append_assoc, List.cons_append,
        ← Cursor.tokens_skipBlanks] at ahead
      obtain ⟨-, atMark⟩ := number_of_optional countWritten ahead
      obtain ⟨markRead, atSides⟩ := Cursor.literal_of_mark (by decide) atMark
      obtain ⟨sidesRead, atBonus⟩ := Cursor.number_of_uint sidesWritten atSides
      rw [die_eq] at read
      simp only [markRead, sidesRead, if_true] at read
      split at read
      · cases read
      · cases read
        cases bonusWritten with
        | absent =>
            -- A bonus may be read where none is written: it is then part of what is left.
            rw [List.nil_append] at atBonus
            obtain ⟨taken, -, further⟩ :=
              optional_of_signed (cursor.skipBlanks.number.2.literal ['d']).2.number.2
            rw [← atBonus, further, List.length_append]
            exact Nat.le_add_left _ _
        | present written =>
            obtain ⟨-, atEnd⟩ := Cursor.signed_of_bonus written atBonus
            exact Nat.le_of_eq (congrArg List.length atEnd)

/-- Up to something that no bonus starts with, a die is read as far as it is written. -/
theorem tokens_of_die
    {cursor next : Cursor}
    {term : Term}
    {dieTokens bonusTokens left : List Token}
    {count sides : UInt32}
    {bonus : Int32}
    (read : die cursor = .ok (term, next))
    (dieWritten : Die dieTokens count sides)
    (bonusWritten : Optional Bonus 0 bonusTokens bonus)
    (stops : Stops left)
    (ahead : tokens cursor.rest = dieTokens ++ bonusTokens ++ left) :
    tokens next.rest = left := by
  obtain ⟨other, atEnd, same⟩ := die_of_written dieWritten bonusWritten stops ahead
  rw [read] at same
  split at same
  · cases same
  · cases same
    exact atEnd

/-- A chain is read at least as far as it is written. -/
theorem length_tokens_of_chain
    {position : Nat}
    {cursor next : Cursor}
    {expression : Expression}
    {used left : List Token}
    {first : WrittenTerm}
    {others : List WrittenTerm}
    (read : chain position cursor = .ok (expression, next))
    (written : Dice used first others)
    (ahead : tokens cursor.rest = used ++ left) :
    (tokens next.rest).length ≤ left.length := by
  induction written generalizing position cursor expression with
  | last dieWritten bonusWritten =>
      -- What is written ends here, but the bonus or the chain may go on.
      obtain ⟨term, afterDie, dieRead, ⟨alone, -, rfl⟩ | ⟨joined, right, -, tail⟩⟩ :=
        chain_cases read
      · have far := length_tokens_of_die dieRead dieWritten bonusWritten ahead
        rw [Cursor.tokens_literal (by decide), alone]
        exact far
      · have far := length_tokens_of_die dieRead dieWritten bonusWritten ahead
        obtain ⟨more, -, -, -, -, -, further⟩ := written_of_chain tail
        rw [Cursor.mark_of_literal (by decide) joined, further, List.length_cons,
          List.length_append] at far
        omega
  | joined dieWritten bonusWritten chainWritten inductionHypothesis =>
      rw [List.append_assoc, List.cons_append] at ahead
      obtain ⟨term, afterDie, dieRead, rest⟩ := chain_cases read
      have atMark := tokens_of_die dieRead dieWritten bonusWritten (.ampersand _) ahead
      obtain ⟨found, atChain⟩ := Cursor.literal_of_mark (by decide) atMark
      rcases rest with ⟨alone, -, -⟩ | ⟨-, right, -, tail⟩
      · rw [found] at alone
        cases alone
      · exact inductionHypothesis tail atChain

/-- The longest chain that is written is read, and all of its dice make terms. -/
theorem longestDice_of_chain
    {position : Nat}
    {cursor next : Cursor}
    {expression : Expression}
    (read : chain position cursor = .ok (expression, next)) :
    ∃ (first : WrittenTerm) (others : List WrittenTerm)
      (valid : ∀ written ∈ first :: others, written.Valid),
      LongestDice (tokens cursor.rest) first others ∧
        expression = chainExpression first others valid := by
  obtain ⟨used, first, others, valid, written, means, ahead⟩ := written_of_chain read
  refine ⟨first, others, valid, ?_, means⟩
  rw [ahead]
  refine .dice written ?_
  intro longer more head tail longerWritten same
  have far := length_tokens_of_chain read longerWritten (ahead.trans same)
  have lengths := congrArg List.length same
  rw [List.length_append, List.length_append] at lengths
  omega

/-! ## Groups -/

/-- What the repetitions of a group are read from says how often the group is repeated. -/
theorem repeats_repetitions
    (cursor : Cursor) :
    Repeats (tokens cursor.rest) (repetitions cursor).1 (tokens (repetitions cursor).2.rest) := by
  rcases repetitions_cases cursor with
    ⟨used, repeats, written, count, ahead⟩ | ⟨once, same, unrepeated⟩
  · rw [ahead, count]
    exact .repeated written
  · rw [once, same]
    exact .once unrepeated

/--
How a group is refused that there is some room for: it is repeated too often, or else its chain is
refused, or else the chain has too many dice.
-/
inductive GroupRefused
    (room : Nat)
    (cursor : Cursor) :
    NotationError → Prop where
  | expressions
      {left : List Token}
      {repeats : Nat}
      (repeated : Repeats (tokens cursor.rest) repeats left)
      (many : room < repeats) :
      GroupRefused room cursor (.tooMany cursor.skipBlanks.offset .expressions)
  | chain
      {here : Cursor}
      {repeats : Nat}
      {error : NotationError}
      (repeated : Repeats (tokens cursor.rest) repeats (tokens here.rest))
      (fits : repeats ≤ room)
      (leads : cursor.Leads here)
      (refused : ChainRefused 1 here error) :
      GroupRefused room cursor error
  | dice
      {chainTokens : List Token}
      {repeats : Nat}
      {first : WrittenTerm}
      {others : List WrittenTerm}
      (repeated : Repeats (tokens cursor.rest) repeats chainTokens)
      (fits : repeats ≤ room)
      (chain : LongestDice chainTokens first others)
      (valid : ∀ written ∈ first :: others, written.Valid)
      (few : (first :: others).length ≤ maxTerms)
      (many : maxDice < WrittenTerm.countAll (first :: others)) :
      GroupRefused room cursor (.tooMany cursor.skipBlanks.offset .dice)

theorem refused_of_group
    {room : Nat}
    {cursor : Cursor}
    {error : NotationError}
    (refused : group room cursor = .error error) :
    GroupRefused room cursor error := by
  have repeated := repeats_repetitions cursor
  rw [group_eq] at refused
  split at refused
  next many =>
    cases refused
    exact .expressions repeated many
  next fits =>
    have fits := Nat.le_of_not_lt fits
    split at refused
    next chainRefused =>
      cases refused
      exact .chain repeated fits (leads_repetitions cursor)
        (refused_of_chain chainRefused (by decide))
    next expression next read =>
      split at refused
      next many =>
        cases refused
        obtain ⟨first, others, valid, longest, means⟩ := longestDice_of_chain read
        have few := length_terms_of_chain read
        rw [means, terms_chainExpression, List.length_pmap] at few
        rw [means, diceCount_chainExpression] at many
        exact .dice repeated fits longest valid (Nat.le_of_succ_le_succ few) many
      · cases refused

/-! ## The loop over the groups -/

/-- Groups are refused in one of the groups that the loop comes to. -/
theorem exists_turns_of_refused
    {text : List Char}
    {error : NotationError}
    (refused : groups [] (Cursor.ofText text) = .error error) :
    ∃ (before : List Expression) (cursor : Cursor),
      Turns text before cursor ∧
        group (maxExpressions - before.length) cursor = .error error := by
  suffices onwards : ∀ (before : List Expression) (cursor : Cursor),
      Turns text before cursor → groups before cursor = .error error →
        ∃ (before : List Expression) (cursor : Cursor),
          Turns text before cursor ∧
            group (maxExpressions - before.length) cursor = .error error from
    onwards [] _ Relation.ReflTransGen.refl refused
  intro before cursor turns refused
  fun_induction groups before cursor with
  | case1 before cursor other refusedGroup =>
      cases refused
      exact ⟨before, cursor, turns, refusedGroup⟩
  | case2 => cases refused
  | case3 before cursor repeats expression afterGroup read expressions afterMark more
      inductionHypothesis =>
      exact inductionHypothesis (turns.tail (.group read more)) refused

end Notation

end DiceCup
