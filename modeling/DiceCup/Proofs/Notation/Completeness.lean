import DiceCup.Proofs.Notation.Soundness

/-!
# What is written is read

Every derivation is followed by the parser to its end, or to a limit that it breaks.  This is where
a parser without lookahead could go wrong: a number in front of a group may count its repetitions or
its dice, and a bonus is read as far as it goes.  No derivation is misread, because the token after
each part tells the parts apart: an `x` or a `d` comes after the number, and an ampersand, a
semicolon or nothing after the bonus.

For each rule there is a relation that says how its derivations are taken (`ChainTaken`,
`GroupTaken`, `RollTaken`).  Together with what was shown about the other direction they determine
the parser by the grammar (`parse_grammar`).
-/

namespace DiceCup.Notation

open Text Grammar

/-! ## One die -/

/-- What may come after a die with its bonus. -/
inductive Stops : List Token → Prop where
  | nothing : Stops []
  | ampersand (others : List Token) : Stops (.mark '&' :: others)
  | semicolon (others : List Token) : Stops (.mark ';' :: others)

/-- What comes after a die does not start with another bonus. -/
theorem Stops.ne_bonus
    {left used others : List Token}
    {bonus : Int32}
    (stops : Stops left)
    (written : Bonus used bonus) :
    left ≠ used ++ others := by
  intro same
  cases written with
  | plain number value =>
      cases number
      cases stops <;> cases same
  | plus number value => cases stops <;> cases same
  | minus number value => cases stops <;> cases same

/-- A bonus that may be left out is read up to what comes after the die. -/
theorem signed_of_optional
    {cursor : Cursor}
    {used left : List Token}
    {bonus : Int32}
    (written : Optional Bonus 0 used bonus)
    (stops : Stops left)
    (ahead : tokens cursor.rest = used ++ left) :
    cursor.signed.1.getD 0 = bonus ∧ tokens cursor.signed.2.rest = left := by
  cases written with
  | absent =>
      rw [List.nil_append] at ahead
      cases read : cursor.signed.1 with
      | none =>
          refine ⟨rfl, ?_⟩
          rw [Cursor.tokens_of_signed_eq_none read, ahead]
      | some other =>
          -- A bonus is read as far as it goes, but what comes next here is no part of one.
          obtain ⟨taken, bonusWritten, start⟩ := Cursor.bonus_of_signed read
          rw [ahead] at start
          exact (stops.ne_bonus bonusWritten start).elim
  | present bonusWritten =>
      obtain ⟨read, rest⟩ := Cursor.signed_of_bonus bonusWritten ahead
      rw [read]
      exact ⟨rfl, rest⟩

/-- A number of dice that may be left out is read up to the mark of the die. -/
theorem number_of_optional
    {cursor : Cursor}
    {used others : List Token}
    {count : UInt32}
    (written : Optional Uint 1 used count)
    (ahead : tokens cursor.rest = used ++ .mark 'd' :: others) :
    cursor.number.1.getD 1 = count ∧
      tokens cursor.number.2.rest = .mark 'd' :: others := by
  cases written with
  | absent =>
      have missing : cursor.number.1 = none := by
        rw [Cursor.fst_number, ahead]
        rfl
      rw [Cursor.tokens_of_number_eq_none missing, missing]
      exact ⟨rfl, ahead⟩
  | present countWritten =>
      obtain ⟨read, rest⟩ := Cursor.number_of_uint countWritten ahead
      rw [read]
      exact ⟨rfl, rest⟩

/-- A die that is written is read, and then it is up to its numbers whether it makes a term. -/
theorem die_of_written
    {cursor : Cursor}
    {dieTokens bonusTokens left : List Token}
    {count sides : UInt32}
    {bonus : Int32}
    (dieWritten : Die dieTokens count sides)
    (bonusWritten : Optional Bonus 0 bonusTokens bonus)
    (stops : Stops left)
    (ahead : tokens cursor.rest = dieTokens ++ bonusTokens ++ left) :
    ∃ next : Cursor,
      tokens next.rest = left ∧
        die cursor =
          match Term.make count sides bonus with
          | .error fault => .error (.invalidDie cursor.skipBlanks.offset fault)
          | .ok term => .ok (term, next) := by
  cases dieWritten with
  | die countWritten sidesWritten =>
      rw [List.append_assoc, List.append_assoc, List.cons_append,
        ← Cursor.tokens_skipBlanks] at ahead
      obtain ⟨countRead, atMark⟩ := number_of_optional countWritten ahead
      obtain ⟨markRead, atSides⟩ := Cursor.literal_of_mark (by decide) atMark
      obtain ⟨sidesRead, atBonus⟩ := Cursor.number_of_uint sidesWritten atSides
      obtain ⟨bonusRead, atEnd⟩ := signed_of_optional bonusWritten stops atBonus
      refine ⟨_, atEnd, ?_⟩
      rw [die_eq]
      simp only [countRead, markRead, sidesRead, bonusRead]
      rfl

/-! ## Chains -/

/--
How a chain is taken whose first die is the `position`-th of its expression: it is read up to the
tokens that are left, or a die makes no term, or there are too many terms.
-/
inductive ChainTaken
    (position : Nat)
    (first : WrittenTerm)
    (others : List WrittenTerm)
    (left : List Token) :
    Except NotationError (Expression × Cursor) → Prop where
  | read
      (valid : ∀ written ∈ first :: others, written.Valid)
      (few : position + others.length ≤ maxTerms)
      (next : Cursor)
      (ahead : tokens next.rest = left) :
      ChainTaken position first others left (.ok (chainExpression first others valid, next))
  | crowded
      (place : Nat)
      (many : maxTerms < position + others.length) :
      ChainTaken position first others left (.error (.tooMany place .terms))
  | invalid
      (place : Nat)
      (written : WrittenTerm)
      (member : written ∈ first :: others)
      (fault : Term.Fault)
      (refused : Term.make written.count written.sides written.bonus = .error fault) :
      ChainTaken position first others left (.error (.invalidDie place fault))

/-- A chain of one die is read when the die makes a term. -/
theorem ChainTaken.single
    {position : Nat}
    {first : WrittenTerm}
    {left : List Token}
    {next : Cursor}
    (firstValid : first.Valid)
    (few : position ≤ maxTerms)
    (ahead : tokens next.rest = left) :
    ChainTaken position first [] left (.ok (.single (first.term firstValid), next)) := by
  have valid : ∀ written ∈ [first], written.Valid :=
    List.forall_mem_singleton.mpr firstValid
  exact ChainTaken.read valid few next ahead

/-- A die that makes a term is joined with the chain after it, or the chain is refused. -/
theorem ChainTaken.combine
    {position : Nat}
    {first second : WrittenTerm}
    {others : List WrittenTerm}
    {left : List Token}
    {result : Except NotationError (Expression × Cursor)}
    (firstValid : first.Valid) :
    ChainTaken (position + 1) second others left result →
      ChainTaken position first (second :: others) left
        (match result with
          | .error error => .error error
          | .ok (right, next) => .ok (.combine (.single (first.term firstValid)) right, next)) := by
  intro taken
  have shorter : position + (second :: others).length = position + 1 + others.length := by
    rw [List.length_cons]
    omega
  cases taken with
  | crowded place many =>
      apply ChainTaken.crowded place
      rw [shorter]
      exact many
  | invalid place written member fault refused =>
      exact .invalid place written (List.mem_cons_of_mem first member) fault refused
  | read othersValid few next ahead =>
      have valid : ∀ written ∈ first :: second :: others, written.Valid :=
        List.forall_mem_cons.mpr ⟨firstValid, othersValid⟩
      apply ChainTaken.read valid _ next ahead
      rw [shorter]
      exact few

/-- What may come after a group. -/
inductive Closes : List Token → Prop where
  | nothing : Closes []
  | semicolon (others : List Token) : Closes (.mark ';' :: others)

theorem Closes.stops
    {left : List Token}
    (closes : Closes left) :
    Stops left := by
  cases closes with
  | nothing => exact .nothing
  | semicolon others => exact .semicolon others

/-- Nothing is joined to a chain that a group ends with. -/
theorem Closes.not_joined
    {left : List Token}
    {cursor : Cursor}
    (closes : Closes left)
    (ahead : tokens cursor.rest = left) :
    (cursor.literal ['&']).1 = false ∧ tokens (cursor.literal ['&']).2.rest = left := by
  rw [← ahead]
  apply Cursor.literal_of_ne (by decide)
  intro joined
  rw [ahead] at joined
  cases closes <;> cases joined

/-- A chain that is written is followed to its end, or to a limit that it breaks. -/
theorem chain_of_written
    {position : Nat}
    {cursor : Cursor}
    {used left : List Token}
    {first : WrittenTerm}
    {others : List WrittenTerm}
    (written : Dice used first others)
    (closes : Closes left)
    (ahead : tokens cursor.rest = used ++ left) :
    ChainTaken position first others left (chain position cursor) := by
  induction written generalizing position cursor with
  | @last dieTokens bonusTokens count sides bonus dieWritten bonusWritten =>
      rw [chain_eq]
      split
      next many => exact .crowded _ many
      next few =>
        obtain ⟨next, atEnd, read⟩ :=
          die_of_written dieWritten bonusWritten closes.stops ahead
        obtain ⟨alone, atLeft⟩ := closes.not_joined atEnd
        rw [read]
        cases made : Term.make count sides bonus with
        | error fault => exact .invalid _ ⟨count, sides, bonus⟩ List.mem_cons_self fault made
        | ok term =>
            obtain ⟨valid, same⟩ := WrittenTerm.term_of_make made
            simp only [alone, Bool.false_eq_true, if_false, same]
            exact .single valid (Nat.le_of_not_lt few) atLeft
  | @joined dieTokens bonusTokens chainTokens count sides bonus second others dieWritten
      bonusWritten chainWritten inductionHypothesis =>
      rw [chain_eq]
      split
      next many => exact .crowded _ (Nat.lt_add_right _ many)
      next few =>
        rw [List.append_assoc, List.cons_append] at ahead
        obtain ⟨next, atMark, read⟩ :=
          die_of_written dieWritten bonusWritten (.ampersand _) ahead
        obtain ⟨joined, atChain⟩ := Cursor.literal_of_mark (by decide) atMark
        rw [read]
        cases made : Term.make count sides bonus with
        | error fault => exact .invalid _ ⟨count, sides, bonus⟩ List.mem_cons_self fault made
        | ok term =>
            obtain ⟨valid, same⟩ := WrittenTerm.term_of_make made
            simp only [joined, if_true, same]
            exact ChainTaken.combine valid (inductionHypothesis atChain)

/-! ## Groups -/

/-- The number of dice in front of a chain is not taken for repetitions. -/
theorem ne_repeated_of_dice
    {used left repeatsTokens others : List Token}
    {first : WrittenTerm}
    {terms : List WrittenTerm}
    {repeats : UInt32}
    (written : Dice used first terms)
    (repeatsWritten : Uint repeatsTokens repeats) :
    used ++ left ≠ repeatsTokens ++ .mark 'x' :: others := by
  have ne_of_die :
      ∀ {dieTokens more : List Token} {count sides : UInt32},
        Die dieTokens count sides → dieTokens ++ more ≠ repeatsTokens ++ .mark 'x' :: others := by
    rintro _ more count sides ⟨countWritten, sidesWritten⟩ same
    cases repeatsWritten
    cases countWritten with
    | absent => cases same
    | present countWritten =>
        cases countWritten
        cases same
  cases written with
  | last dieWritten bonusWritten =>
      rw [List.append_assoc]
      exact ne_of_die dieWritten
  | joined dieWritten bonusWritten chainWritten =>
      rw [List.append_assoc, List.append_assoc]
      exact ne_of_die dieWritten

/-- A number in front of an `x` is read as repetitions, whatever comes after it. -/
theorem repetitions_of_uint
    {cursor : Cursor}
    {used left : List Token}
    {repeats : UInt32}
    (written : Uint used repeats)
    (ahead : tokens cursor.rest = used ++ .mark 'x' :: left) :
    (repetitions cursor).1 = repeats.toNat ∧ tokens (repetitions cursor).2.rest = left := by
  rw [← Cursor.tokens_skipBlanks] at ahead
  obtain ⟨read, atMark⟩ := Cursor.number_of_uint written ahead
  obtain ⟨marked, atDice⟩ := Cursor.literal_of_mark (by decide) atMark
  rw [repetitions_eq, read]
  simp only [marked, if_true]
  exact ⟨trivial, atDice⟩

/-- In front of a group its repetitions are read, and its chain is left. -/
theorem repetitions_of_written
    {cursor : Cursor}
    {used left : List Token}
    {group : WrittenGroup}
    (written : Group used group)
    (ahead : tokens cursor.rest = used ++ left) :
    (repetitions cursor).1 = group.repeats.toNat ∧
      ∃ diceTokens : List Token,
        Dice diceTokens group.first group.others ∧
          tokens (repetitions cursor).2.rest = diceTokens ++ left := by
  cases written with
  | once dice =>
      rcases repetitions_cases cursor with
        ⟨repeatsTokens, repeats, repeatsWritten, -, repeated⟩ | ⟨once, same, -⟩
      · rw [ahead] at repeated
        exact (ne_repeated_of_dice dice repeatsWritten repeated).elim
      · rw [once, same]
        exact ⟨rfl, used, dice, ahead⟩
  | @repeated repeatsTokens diceTokens repeats first others repeatsWritten dice =>
      rw [List.append_assoc, List.cons_append] at ahead
      obtain ⟨count, atDice⟩ := repetitions_of_uint repeatsWritten ahead
      exact ⟨count, diceTokens, dice, atDice⟩

/--
How a group is taken for which there is some room: it is read up to the tokens that are left, or the
room is too small, or the group breaks a limit by itself.
-/
inductive GroupTaken
    (room : Nat)
    (group : WrittenGroup)
    (left : List Token) :
    Except NotationError (Nat × Expression × Cursor) → Prop where
  | read
      (valid : group.Valid)
      (fits : group.repeats.toNat ≤ room)
      (next : Cursor)
      (ahead : tokens next.rest = left) :
      GroupTaken room group left
        (.ok (group.repeats.toNat, group.expression valid, next))
  | crowded
      (place : Nat)
      (many : room < group.repeats.toNat) :
      GroupTaken room group left (.error (.tooMany place .expressions))
  | broken
      (error : NotationError)
      (breaks : group.Breaks error) :
      GroupTaken room group left (.error error)

/-- A group that is written is followed to its end, or to a limit that it breaks. -/
theorem group_of_written
    {room : Nat}
    {cursor : Cursor}
    {used left : List Token}
    {written : WrittenGroup}
    (groupWritten : Group used written)
    (closes : Closes left)
    (ahead : tokens cursor.rest = used ++ left) :
    GroupTaken room written left (group room cursor) := by
  obtain ⟨repeats, diceTokens, dice, atDice⟩ := repetitions_of_written groupWritten ahead
  have taken : ChainTaken 1 written.first written.others left (chain 1 (repetitions cursor).2) :=
    chain_of_written dice closes atDice
  rw [group_eq, repeats]
  split
  next many => exact .crowded _ many
  next fits =>
    generalize chain 1 (repetitions cursor).2 = result at taken ⊢
    cases taken with
    | crowded place many =>
        apply GroupTaken.broken
        show maxTerms < (written.first :: written.others).length
        rw [List.length_cons, Nat.add_comm]
        exact many
    | invalid place term member fault refused =>
        apply GroupTaken.broken
        exact ⟨term, member, WrittenTerm.not_valid_of_make refused, refused⟩
    | read termsValid few next atEnd =>
        dsimp only
        rw [diceCount_chainExpression]
        split
        next many => exact .broken _ many
        next fewDice =>
          have valid : written.Valid := {
            terms := termsValid
            length_le := by
              show (written.first :: written.others).length ≤ maxTerms
              rw [List.length_cons, Nat.add_comm]
              exact few
            dice_le := Nat.le_of_not_lt fewDice }
          exact .read valid (Nat.le_of_not_lt fits) next atEnd

/-! ## Whole notations -/

/--
How groups are taken after some expressions: all of them are read and nothing is left, or there are
too many expressions, or one group breaks a limit by itself.
-/
inductive RollTaken
    (before : List Expression)
    (groups : List WrittenGroup) :
    Except NotationError (List Expression × Cursor) → Prop where
  | read
      (valid : ∀ group ∈ groups, group.Valid)
      (fits : before.length + repeatsAll groups ≤ maxExpressions)
      (next : Cursor)
      (ahead : tokens next.rest = []) :
      RollTaken before groups (.ok (before ++ meaning groups valid, next))
  | crowded
      (place : Nat)
      (many : maxExpressions < before.length + repeatsAll groups) :
      RollTaken before groups (.error (.tooMany place .expressions))
  | broken
      (error : NotationError)
      (group : WrittenGroup)
      (member : group ∈ groups)
      (breaks : group.Breaks error) :
      RollTaken before groups (.error error)

/-- Without another group nothing is added. -/
theorem RollTaken.nothing
    {before : List Expression}
    {next : Cursor}
    (room : before.length ≤ maxExpressions)
    (ahead : tokens next.rest = []) :
    RollTaken before [] (.ok (before, next)) := by
  have valid : ∀ group ∈ ([] : List WrittenGroup), group.Valid :=
    List.forall_mem_nil _
  have taken := RollTaken.read valid room next ahead
  rw [meaning, List.pmap_nil, List.flatten_nil, List.append_nil] at taken
  exact taken

/-- Groups behind a group that is read are taken after its expressions. -/
theorem RollTaken.after
    {before : List Expression}
    {group : WrittenGroup}
    {groups : List WrittenGroup}
    {result : Except NotationError (List Expression × Cursor)}
    (valid : group.Valid)
    (taken : RollTaken (before ++ group.expressions valid) groups result) :
    RollTaken before (group :: groups) result := by
  have count :
      (before ++ group.expressions valid).length + repeatsAll groups =
        before.length + repeatsAll (group :: groups) := by
    rw [List.length_append, WrittenGroup.expressions, List.length_replicate, repeatsAll,
      Nat.add_assoc]
  cases taken with
  | crowded place many =>
      apply RollTaken.crowded place
      rw [← count]
      exact many
  | broken error other member breaks =>
      exact .broken error other (List.mem_cons_of_mem group member) breaks
  | read othersValid fits next ahead =>
      have allValid : ∀ other ∈ group :: groups, other.Valid :=
        List.forall_mem_cons.mpr ⟨valid, othersValid⟩
      rw [count] at fits
      have all := RollTaken.read allValid fits next ahead
      rw [meaning, List.pmap_cons, List.flatten_cons, ← List.append_assoc] at all
      exact all

/-- What is read of a group decides what the groups behind it are read for. -/
theorem RollTaken.of_group
    {before : List Expression}
    {cursor : Cursor}
    {written : WrittenGroup}
    {others : List WrittenGroup}
    {left : List Token}
    (room : before.length ≤ maxExpressions)
    (first : GroupTaken (maxExpressions - before.length) written left
      (group (maxExpressions - before.length) cursor))
    (rest :
      ∀ (valid : written.Valid) (next : Cursor),
        (before ++ written.expressions valid).length ≤ maxExpressions →
          tokens next.rest = left →
            RollTaken (before ++ written.expressions valid) others
              (if (next.literal [';']).1 then
                groups (before ++ written.expressions valid) (next.literal [';']).2
              else
                .ok (before ++ written.expressions valid, (next.literal [';']).2))) :
    RollTaken before (written :: others) (groups before cursor) := by
  rw [groups_eq]
  generalize group (maxExpressions - before.length) cursor = result at first ⊢
  cases first with
  | crowded place many =>
      apply RollTaken.crowded place
      rw [repeatsAll]
      omega
  | broken error breaks => exact .broken error written List.mem_cons_self breaks
  | read valid fits next ahead =>
      apply RollTaken.after valid
      apply rest valid next _ ahead
      rw [WrittenGroup.expressions, List.length_append, List.length_replicate]
      omega

/-- Groups that are written are followed to their end, or to a limit that they break. -/
theorem groups_of_written
    {before : List Expression}
    {cursor : Cursor}
    {used : List Token}
    {written : List WrittenGroup}
    (rollWritten : Roll used written)
    (ahead : tokens cursor.rest = used)
    (room : before.length ≤ maxExpressions) :
    RollTaken before written (groups before cursor) := by
  induction rollWritten generalizing before cursor with
  | @last used group groupWritten =>
      rw [← List.append_nil used] at ahead
      apply RollTaken.of_group room (group_of_written groupWritten .nothing ahead)
      intro valid next fits atEnd
      obtain ⟨alone, atNothing⟩ : (next.literal [';']).1 = false ∧
          tokens (next.literal [';']).2.rest = tokens next.rest := by
        apply Cursor.literal_of_ne (by decide)
        intro more
        rw [atEnd] at more
        cases more
      rw [alone, if_neg Bool.false_ne_true]
      exact RollTaken.nothing fits (atNothing.trans atEnd)
  | @more groupTokens rollTokens group groups groupWritten roll inductionHypothesis =>
      -- The rest is followed from behind the expressions of this group, for which there is room.
      apply RollTaken.of_group room (group_of_written groupWritten (.semicolon rollTokens) ahead)
      intro valid next fits atMark
      obtain ⟨more, atRoll⟩ := Cursor.literal_of_mark (by decide) atMark
      rw [if_pos more]
      exact inductionHypothesis atRoll fits

/-- A notation that is written stands for its meaning, or it is refused for a limit it breaks. -/
theorem parse_of_roll
    {text : String}
    {written : List WrittenGroup}
    (rollWritten : Roll (tokens (lowered text)) written) :
    (∃ within : WithinLimits written, parse text = .ok (meaning written within.valid)) ∨
      ∃ error : NotationError, parse text = .error error ∧ BreaksLimit written error := by
  have taken : RollTaken [] written (groups [] (Cursor.ofText (lowered text))) :=
    groups_of_written rollWritten rfl (Nat.zero_le maxExpressions)
  rw [parse_eq]
  generalize groups [] (Cursor.ofText (lowered text)) = result at taken ⊢
  cases taken with
  | crowded place many =>
      rw [List.length_nil, Nat.zero_add] at many
      exact Or.inr ⟨_, rfl, Or.inr ⟨⟨place, rfl⟩, many⟩⟩
  | broken error group member breaks =>
      exact Or.inr ⟨error, rfl, Or.inl ⟨group, member, breaks⟩⟩
  | read valid fits next ahead =>
      rw [List.length_nil, Nat.zero_add] at fits
      rw [conclude, if_pos (Cursor.rest_skipBlanks_eq_nil_iff.mpr ahead)]
      exact Or.inl ⟨⟨valid, fits⟩, rfl⟩

/-- Groups within the limits break none. -/
theorem not_breaksLimit_of_within
    {written : List WrittenGroup}
    {error : NotationError}
    (within : WithinLimits written) :
    ¬ BreaksLimit written error := by
  rintro (⟨group, member, breaks⟩ | ⟨-, many⟩)
  · have valid := within.valid group member
    cases error with
    | missing position wanted => exact breaks
    | trailing position found => exact breaks
    | invalidDie position fault =>
        obtain ⟨term, among, invalid, -⟩ := breaks
        exact invalid (valid.terms term among)
    | tooMany position quantity =>
        cases quantity with
        | expressions => exact breaks
        | dice => exact Nat.not_lt.mpr valid.dice_le breaks
        | terms => exact Nat.not_lt.mpr valid.length_le breaks
  · exact Nat.not_lt.mpr within.repeats_le many

/--
The parser accepts what the grammar derives within the limits, and gives its meaning.  A derivation
outside the limits is refused for a limit that it breaks.
-/
theorem parse_grammar
    (text : String) :
    (∀ expressions : List Expression,
        parse text = .ok expressions ↔
          ∃ (written : List WrittenGroup) (within : WithinLimits written),
            Roll (tokens (lowered text)) written ∧
              expressions = meaning written within.valid) ∧
      ∀ written : List WrittenGroup,
        Roll (tokens (lowered text)) written →
          ¬ WithinLimits written →
            ∃ error : NotationError,
              parse text = .error error ∧ BreaksLimit written error := by
  constructor
  · intro expressions
    constructor
    · intro parsed
      obtain ⟨written, rollWritten⟩ := roll_of_parse parsed
      rcases parse_of_roll rollWritten with ⟨within, means⟩ | ⟨error, refused, -⟩
      · rw [parsed] at means
        injection means with same
        exact ⟨written, within, rollWritten, same⟩
      · rw [parsed] at refused
        cases refused
    · rintro ⟨written, within, rollWritten, rfl⟩
      rcases parse_of_roll rollWritten with ⟨_, means⟩ | ⟨error, -, breaks⟩
      · exact means
      · exact (not_breaksLimit_of_within within breaks).elim
  · intro written rollWritten outside
    rcases parse_of_roll rollWritten with ⟨within, -⟩ | refused
    · exact (outside within).elim
    · exact refused

/-- A chain is held to the limits even where it is repeated zero times. -/
theorem parse_grammar_no_dice :
    Roll (tokens (lowered "0X 0D6")) [⟨0, ⟨0, 6, 0⟩, []⟩] ∧
      ¬ WithinLimits [⟨0, ⟨0, 6, 0⟩, []⟩] ∧
        ∃ error : NotationError,
          parse "0X 0D6" = .error error ∧ BreaksLimit [⟨0, ⟨0, 6, 0⟩, []⟩] error := by
  have rollWritten : Roll (tokens (lowered "0X 0D6")) [⟨0, ⟨0, 6, 0⟩, []⟩] := by
    have same :
        tokens (lowered "0X 0D6") =
          [.digits ['0'], .mark 'x', .digits ['0'], .mark 'd', .digits ['6']] := by
      decide +kernel
    rw [same]
    exact .last (.repeated (.digits rfl)
      (.last (.die (.present (.digits rfl)) (.digits rfl)) .absent))
  have outside : ¬ WithinLimits [⟨0, ⟨0, 6, 0⟩, []⟩] := by
    intro within
    have valid := (within.valid _ List.mem_cons_self).terms _ List.mem_cons_self
    exact absurd valid.count_pos (by decide)
  exact ⟨rollWritten, outside, (parse_grammar "0X 0D6").2 _ rollWritten outside⟩

end DiceCup.Notation
