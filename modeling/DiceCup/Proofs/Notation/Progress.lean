import DiceCup.Proofs.Notation.Limits
import DiceCup.Proofs.Notation.Reach

/-!
# The parser makes progress

Neither the loop over the groups nor the recursion along a chain is given a number of steps that
could run out.  They end because every stage that succeeds takes something off its text: at least
two tokens, and a token is at least one byte.  `Call` names a stage with what it is called with, and
`Call.Makes` says which calls a call makes.  A call that is made starts where its caller starts or
further to the right, and strictly further where the loop or the recursion goes on, so no call makes
calls forever (`Call.wellFounded_makes`).  Hence the equations of the loop and of the recursion have
exactly one solution each, which is the parser.

`calls_progress` puts this together for every text, accepted or not.
-/

namespace DiceCup

open Text Notation

namespace Notation

/-! ## Tokens take bytes -/

/-- A text has at least as many bytes as tokens. -/
theorem length_tokens_le_byteLength
    (text : List Char) :
    (tokens text).length ≤ byteLength text := by
  rw [tokens, List.length_map]
  fun_induction placedTokens 0 text with
  | case1 => exact Nat.le_refl _
  | case2 place first rest blank inductionHypothesis =>
      rw [byteLength_cons]
      exact Nat.le_trans inductionHypothesis (Nat.le_add_left _ _)
  | case3 place first rest visible digit inductionHypothesis =>
      have parts := byteLength_takeWhile_add_dropWhile Char.isDigit rest
      have positive := first.utf8Size_pos
      rw [List.length_cons, byteLength_cons first rest]
      omega
  | case4 place first rest visible other inductionHypothesis =>
      have positive := first.utf8Size_pos
      rw [List.length_cons, byteLength_cons]
      omega

end Notation

namespace Cursor

/-- The tokens that a stage takes are those of the text that it moves over. -/
theorem Leads.exists_passes
    {start next : Cursor}
    {used : List Token}
    (leads : start.Leads next)
    (ahead : tokens start.rest = used ++ tokens next.rest) :
    ∃ passed : List Char, start.Passes passed next ∧ tokens passed = used := by
  obtain ⟨passed, passes⟩ := leads
  refine ⟨passed, passes, ?_⟩
  exact List.append_cancel_right (passes.tokens_eq.symm.trans ahead)

/-- A cursor that takes tokens is moved by a byte for each of them, from where the blanks end. -/
theorem Passes.offset_add_length_le
    {start next : Cursor}
    {passed : List Char}
    (passes : start.Passes passed next)
    (taken : tokens passed ≠ []) :
    start.skipBlanks.offset + (tokens passed).length ≤ next.offset := by
  have visible : dropBlanks passed ≠ [] := by
    intro nothing
    apply taken
    rw [← tokens_dropBlanks, nothing, tokens_nil]
  -- The blanks end inside the text that is passed, since that text has a token.
  have blanks : start.rest.takeWhile isBlank = passed.takeWhile isBlank := by
    have parts : passed.takeWhile isBlank ++ dropBlanks passed = passed :=
      List.takeWhile_append_dropWhile
    have stops : (passed.takeWhile isBlank).length ≠ passed.length := by
      intro whole
      have lengths := congrArg List.length parts
      rw [List.length_append, whole] at lengths
      exact visible (List.eq_nil_of_length_eq_zero (by omega))
    rw [passes.rest_eq, List.takeWhile_append, if_neg stops]
  have parts :
      byteLength (passed.takeWhile isBlank) + byteLength (dropBlanks passed) = byteLength passed :=
    byteLength_takeWhile_add_dropWhile isBlank passed
  have bytes := length_tokens_le_byteLength (dropBlanks passed)
  rw [tokens_dropBlanks] at bytes
  have place : start.skipBlanks.offset =
      start.offset + byteLength (start.rest.takeWhile isBlank) :=
    rfl
  rw [place, blanks, passes.offset_eq]
  omega

/-- A mark that is found is passed. -/
theorem offset_lt_of_literal
    {mark : Char}
    {cursor next : Cursor}
    (found : cursor.literal [mark] = (true, next)) :
    cursor.skipBlanks.offset < next.offset := by
  have positive : 0 < byteLength [mark] := Nat.add_pos_left mark.utf8Size_pos _
  rw [(movesOver_of_literal found).offset_eq]
  exact Nat.lt_add_of_pos_right positive

end Cursor

namespace Notation

namespace Grammar

/-! ## Every rule takes two tokens -/

theorem Die.two_le_length
    {used : List Token}
    {count sides : UInt32}
    (written : Die used count sides) :
    2 ≤ used.length := by
  cases written with
  | die countWritten sidesWritten =>
      cases sidesWritten with
      | digits numeral =>
          rw [List.length_append, List.length_cons, List.length_singleton]
          exact Nat.le_add_left _ _

theorem Dice.two_le_length
    {used : List Token}
    {first : WrittenTerm}
    {others : List WrittenTerm}
    (written : Dice used first others) :
    2 ≤ used.length := by
  cases written with
  | last die bonusWritten =>
      rw [List.length_append]
      exact Nat.le_trans die.two_le_length (Nat.le_add_right _ _)
  | joined die bonusWritten chain =>
      rw [List.length_append, List.length_append, Nat.add_assoc]
      exact Nat.le_trans die.two_le_length (Nat.le_add_right _ _)

theorem Group.two_le_length
    {used : List Token}
    {group : WrittenGroup}
    (written : Group used group) :
    2 ≤ used.length := by
  cases written with
  | once dice => exact dice.two_le_length
  | repeated repeatsWritten dice =>
      have inner := dice.two_le_length
      rw [List.length_append, List.length_cons]
      omega

theorem Roll.two_le_length
    {used : List Token}
    {groups : List WrittenGroup}
    (written : Roll used groups) :
    2 ≤ used.length := by
  cases written with
  | last group => exact group.two_le_length
  | more group roll =>
      rw [List.length_append]
      exact Nat.le_trans group.two_le_length (Nat.le_add_right _ _)

end Grammar

/-! ## Calls -/

/-- A stage of the parser with what it is called with. -/
inductive Call where
  | groups (before : List Expression) (cursor : Cursor)
  | group (room : Nat) (cursor : Cursor)
  | chain (position : Nat) (cursor : Cursor)
  | die (cursor : Cursor)

namespace Call

/-- Where a call starts. -/
def cursor :
    Call → Cursor
  | .groups _ start => start
  | .group _ start => start
  | .chain _ start => start
  | .die start => start

/-- A call succeeds, and the cursor is there then. -/
inductive EndsAt : Call → Cursor → Prop where
  | groups
      {before expressions : List Expression}
      {start next : Cursor}
      (read : Notation.groups before start = .ok (expressions, next)) :
      EndsAt (.groups before start) next
  | group
      {room repeats : Nat}
      {expression : Expression}
      {start next : Cursor}
      (read : Notation.group room start = .ok (repeats, expression, next)) :
      EndsAt (.group room start) next
  | chain
      {position : Nat}
      {expression : Expression}
      {start next : Cursor}
      (read : Notation.chain position start = .ok (expression, next)) :
      EndsAt (.chain position start) next
  | die
      {term : Term}
      {start next : Cursor}
      (read : Notation.die start = .ok (term, next)) :
      EndsAt (.die start) next

/-- A call and a call that is made to answer it. -/
inductive Makes : Call → Call → Prop where
  | group
      {before : List Expression}
      {start : Cursor} :
      Makes (.groups before start) (.group (maxExpressions - before.length) start)
  | groups
      {before expressions : List Expression}
      {start next : Cursor}
      (turn : Turn (before, start) (expressions, next)) :
      Makes (.groups before start) (.groups expressions next)
  | chain
      {room : Nat}
      {start : Cursor}
      (fits : (repetitions start).1 ≤ room) :
      Makes (.group room start) (.chain 1 (repetitions start).2)
  | die
      {position : Nat}
      {start : Cursor}
      (few : position ≤ maxTerms) :
      Makes (.chain position start) (.die start)
  | tail
      {position : Nat}
      {term : Term}
      {start afterDie afterMark : Cursor}
      (few : position ≤ maxTerms)
      (read : Notation.die start = .ok (term, afterDie))
      (joined : afterDie.literal ['&'] = (true, afterMark)) :
      Makes (.chain position start) (.chain (position + 1) afterMark)

/-- The calls that are made while a text is parsed. -/
def Reached
    (text : String)
    (call : Call) :
    Prop :=
  Relation.ReflTransGen Makes (.groups [] (Cursor.ofText (lowered text))) call

/-! ## How far a call gets -/

/-- A call that succeeds takes two tokens or more off the text. -/
theorem EndsAt.takes
    {call : Call}
    {next : Cursor}
    (ends : call.EndsAt next) :
    call.cursor.Leads next ∧
      ∃ used : List Token,
        tokens call.cursor.rest = used ++ tokens next.rest ∧ 2 ≤ used.length := by
  cases ends with
  | groups read =>
      obtain ⟨used, written, -, roll, -, ahead⟩ := written_of_groups read
      exact ⟨leads_of_groups read, used, ahead, roll.two_le_length⟩
  | group read =>
      obtain ⟨used, written, -, group, -, -, ahead⟩ := written_of_group read
      exact ⟨leads_of_group read, used, ahead, group.two_le_length⟩
  | chain read =>
      obtain ⟨used, first, others, -, dice, -, ahead⟩ := written_of_chain read
      exact ⟨leads_of_chain read, used, ahead, dice.two_le_length⟩
  | die read =>
      obtain ⟨dieTokens, bonusTokens, count, sides, bonus, -, die, -, -, ahead⟩ :=
        written_of_die read
      refine ⟨leads_of_die read, dieTokens ++ bonusTokens, ahead, ?_⟩
      rw [List.length_append]
      exact Nat.le_trans die.two_le_length (Nat.le_add_right _ _)

theorem EndsAt.offset_add_two_le
    {call : Call}
    {next : Cursor}
    (ends : call.EndsAt next) :
    call.cursor.skipBlanks.offset + 2 ≤ next.offset := by
  obtain ⟨leads, used, ahead, many⟩ := ends.takes
  obtain ⟨passed, passes, rfl⟩ := leads.exists_passes ahead
  have taken : tokens passed ≠ [] := List.length_pos_iff.mp (by omega)
  have far := passes.offset_add_length_le taken
  omega

/-- The loop goes on at least three bytes further to the right: a group and a semicolon. -/
theorem offset_add_three_le_of_turn
    {before expressions : List Expression}
    {start next : Cursor}
    (turn : Turn (before, start) (expressions, next)) :
    start.skipBlanks.offset + 3 ≤ next.offset := by
  cases turn with
  | @group _ _ afterGroup _ _ _ read more =>
      have group : start.skipBlanks.offset + 2 ≤ afterGroup.offset :=
        (EndsAt.group read).offset_add_two_le
      have blanks := (Cursor.Advances.skipBlanks afterGroup).offset_le
      have mark := Cursor.offset_lt_of_literal more
      omega

/-- The recursion goes on behind an ampersand, which stands behind a die. -/
theorem offset_lt_of_tail
    {term : Term}
    {start afterDie afterMark : Cursor}
    (read : Notation.die start = .ok (term, afterDie))
    (joined : afterDie.literal ['&'] = (true, afterMark)) :
    afterDie.offset < afterMark.offset ∧ start.skipBlanks.offset + 3 ≤ afterMark.offset := by
  have die : start.skipBlanks.offset + 2 ≤ afterDie.offset :=
    (EndsAt.die read).offset_add_two_le
  have blanks := (Cursor.Advances.skipBlanks afterDie).offset_le
  have mark := Cursor.offset_lt_of_literal joined
  omega

/-- A call that is made starts in the text that its caller has in front of it. -/
theorem Makes.advances
    {call made : Call}
    (makes : call.Makes made) :
    call.cursor.Advances made.cursor := by
  cases makes with
  | group => exact .refl _
  | groups turn =>
      cases turn with
      | @group _ _ afterGroup _ _ _ read more =>
          have mark := Cursor.Advances.literal [';'] afterGroup
          rw [more] at mark
          exact (leads_of_group read).advances.trans mark
  | chain fits => exact (leads_repetitions _).advances
  | die few => exact .refl _
  | @tail _ _ _ afterDie _ few read joined =>
      have mark := Cursor.Advances.literal ['&'] afterDie
      rw [joined] at mark
      exact (leads_of_die read).advances.trans mark

/-- All calls start in the text that is parsed. -/
theorem Reached.advances
    {text : String}
    {call : Call}
    (reached : Reached text call) :
    (Cursor.ofText (lowered text)).Advances call.cursor := by
  induction reached with
  | refl => exact .refl _
  | tail _ makes advances => exact advances.trans makes.advances

/-- The terms of a chain are counted up to one more than there may be. -/
theorem Reached.position_le
    {text : String}
    {position : Nat}
    {start : Cursor}
    (reached : Reached text (.chain position start)) :
    position ≤ maxTerms + 1 := by
  rcases reached.cases_tail with same | ⟨caller, -, makes⟩
  · cases same
  · cases makes with
    | chain fits => exact Nat.le_add_left 1 maxTerms
    | tail few read joined => exact Nat.succ_le_succ few

/-! ## No call makes calls forever -/

/-- How many stages a stage may hand on to without taking anything off the text. -/
def rank :
    Call → Nat
  | .groups .. => 3
  | .group .. => 2
  | .chain .. => 1
  | .die .. => 0

/-- The work that is left: the bytes ahead come first, and the stages at the same place then. -/
def work
    (call : Call) :
    Nat :=
  4 * byteLength call.cursor.rest + call.rank

/-- A call leaves less work to the calls that it makes. -/
theorem Makes.work_lt
    {call made : Call}
    (makes : call.Makes made) :
    made.work < call.work := by
  have extent := makes.advances.extent_eq
  have onward := makes.advances.offset_le
  simp only [Cursor.extent] at extent
  simp only [work]
  cases makes with
  | group => exact Nat.lt_succ_self _
  | @groups _ _ start next turn =>
      have blanks := (Cursor.Advances.skipBlanks start).offset_le
      have further := offset_add_three_le_of_turn turn
      simp only [cursor, rank] at extent ⊢
      omega
  | chain fits =>
      simp only [cursor, rank] at extent onward ⊢
      omega
  | die few => exact Nat.lt_succ_self _
  | @tail _ _ start _ _ few read joined =>
      have blanks := (Cursor.Advances.skipBlanks start).offset_le
      have further := (offset_lt_of_tail read joined).2
      simp only [cursor, rank] at extent ⊢
      omega

theorem wellFounded_makes :
    WellFounded fun made call : Call => call.Makes made :=
  Subrelation.wf Makes.work_lt (measure work).wf

/-- Equations that ask only for the answers to calls that are made have one solution at most. -/
theorem eq_of_solves
    {Argument Value : Type}
    (callOf : Argument → Cursor → Call)
    {step : (Argument → Cursor → Value) → Argument → Cursor → Value}
    (asks :
      ∀ {left right : Argument → Cursor → Value} {argument : Argument} {start : Cursor},
        (∀ (other : Argument) (next : Cursor),
          (callOf argument start).Makes (callOf other next) →
            left other next = right other next) →
          step left argument start = step right argument start)
    {left right : Argument → Cursor → Value}
    (solvesLeft :
      ∀ (argument : Argument) (start : Cursor), left argument start = step left argument start)
    (solvesRight :
      ∀ (argument : Argument) (start : Cursor), right argument start = step right argument start) :
    left = right := by
  -- The induction is on the call, which is made for an argument and a cursor.
  suffices each : ∀ (call : Call) (argument : Argument) (start : Cursor),
      call = callOf argument start → left argument start = right argument start by
    funext argument start
    exact each _ argument start rfl
  intro call
  induction call using wellFounded_makes.induction with
  | _ call inductionHypothesis =>
    rintro argument start rfl
    rw [solvesLeft, solvesRight]
    exact asks fun other next makes => inductionHypothesis _ makes other next rfl

end Call

/-! ## The equations of the parser -/

/-- What a chain is, if `tail` answers for the chain behind its first ampersand. -/
def chainStep
    (tail : Nat → Cursor → Except NotationError (Expression × Cursor))
    (position : Nat)
    (cursor : Cursor) :
    Except NotationError (Expression × Cursor) :=
  if maxTerms < position then
    .error (.tooMany cursor.skipBlanks.offset .terms)
  else
    match die cursor with
    | .error error => .error error
    | .ok (term, afterDie) =>
      if (afterDie.literal ['&']).1 then
        match tail (position + 1) (afterDie.literal ['&']).2 with
        | .error error => .error error
        | .ok (right, next) => .ok (.combine (.single term) right, next)
      else
        .ok (.single term, (afterDie.literal ['&']).2)

/-- What groups are, if `others` answers for the groups behind the first semicolon. -/
def groupsStep
    (others : List Expression → Cursor → Except NotationError (List Expression × Cursor))
    (before : List Expression)
    (cursor : Cursor) :
    Except NotationError (List Expression × Cursor) :=
  match group (maxExpressions - before.length) cursor with
  | .error error => .error error
  | .ok (repeats, expression, afterGroup) =>
    if (afterGroup.literal [';']).1 then
      others (before ++ List.replicate repeats expression) (afterGroup.literal [';']).2
    else
      .ok (before ++ List.replicate repeats expression, (afterGroup.literal [';']).2)

/-- A chain asks for another one only in the calls that it makes. -/
theorem chainStep_congr
    {left right : Nat → Cursor → Except NotationError (Expression × Cursor)}
    {position : Nat}
    {cursor : Cursor}
    (same :
      ∀ (further : Nat) (afterMark : Cursor),
        (Call.chain position cursor).Makes (.chain further afterMark) →
          left further afterMark = right further afterMark) :
    chainStep left position cursor = chainStep right position cursor := by
  unfold chainStep
  split
  · rfl
  next few =>
    split
    · rfl
    next term afterDie read =>
      split
      next joined =>
        have makes := Call.Makes.tail (Nat.le_of_not_lt few) read (Prod.ext joined rfl)
        rw [same _ _ makes]
      · rfl

/-- Groups ask for others only in the calls that they make. -/
theorem groupsStep_congr
    {left right : List Expression → Cursor → Except NotationError (List Expression × Cursor)}
    {before : List Expression}
    {cursor : Cursor}
    (same :
      ∀ (expressions : List Expression) (afterMark : Cursor),
        (Call.groups before cursor).Makes (.groups expressions afterMark) →
          left expressions afterMark = right expressions afterMark) :
    groupsStep left before cursor = groupsStep right before cursor := by
  unfold groupsStep
  split
  · rfl
  next repeats expression afterGroup read =>
    split
    next more => exact same _ _ (.groups (.group read (Prod.ext more rfl)))
    · rfl

/-- The recursion along a chain has one solution. -/
theorem eq_chainStep_iff
    {tail : Nat → Cursor → Except NotationError (Expression × Cursor)} :
    (∀ (position : Nat) (cursor : Cursor),
        tail position cursor = chainStep tail position cursor) ↔
      tail = chain := by
  constructor
  · intro solves
    exact Call.eq_of_solves .chain chainStep_congr solves chain_eq
  · rintro rfl
    exact chain_eq

/-- The loop over the groups has one solution. -/
theorem eq_groupsStep_iff
    {others : List Expression → Cursor → Except NotationError (List Expression × Cursor)} :
    (∀ (before : List Expression) (cursor : Cursor),
        others before cursor = groupsStep others before cursor) ↔
      others = groups := by
  constructor
  · intro solves
    exact Call.eq_of_solves .groups groupsStep_congr solves groups_eq
  · rintro rfl
    exact groups_eq

/-! ## Progress -/

/-- The loop is moved over a semicolon and over what is written as a whole group. -/
theorem exists_passes_of_semicolon
    {room repeats : Nat}
    {expression : Expression}
    {cursor afterMark next : Cursor}
    (more : cursor.literal [';'] = (true, afterMark))
    (read : group room afterMark = .ok (repeats, expression, next)) :
    ∃ (passed : List Char) (groupTokens : List Token) (written : WrittenGroup),
      cursor.Passes passed next ∧
        tokens passed = .mark ';' :: groupTokens ∧
        Grammar.Group groupTokens written := by
  have mark : cursor.Leads (cursor.literal [';']).2 := .literal (by decide) cursor
  have found : (cursor.literal [';']).1 = true := by rw [more]
  have ahead := Cursor.mark_of_literal (by decide) found
  rw [more] at mark ahead
  obtain ⟨used, written, -, group, -, -, aheadGroup⟩ := written_of_group read
  rw [aheadGroup, ← List.cons_append] at ahead
  obtain ⟨passed, passes, taken⟩ := (mark.trans (leads_of_group read)).exists_passes ahead
  exact ⟨passed, used, written, passes, taken, group⟩

/--
The parser makes progress on every text, whether it is accepted or not.  From wherever a cursor may
stand in the text, a stage that succeeds ends two bytes or more behind the blanks that it starts
with, and inside the text; all calls start there, and count the terms of a chain up to one more than
there may be.  The loop over the groups goes on behind a semicolon and a whole group.  The recursion
along a chain goes on behind a die and an ampersand, one term further.  So no call makes calls
forever, and the equations of the recursion and of the loop, in which no number of steps runs out,
have no other solution than the parser.
-/
theorem calls_progress
    (text : String) :
    (∀ (call : Call) (next : Cursor),
        (Cursor.ofText (lowered text)).Advances call.cursor → call.EndsAt next →
          call.cursor.skipBlanks.offset + 2 ≤ next.offset ∧ next.offset ≤ text.utf8ByteSize) ∧
      (∀ call : Call, Call.Reached text call →
        (Cursor.ofText (lowered text)).Advances call.cursor ∧
          ∀ (position : Nat) (cursor : Cursor),
            call = .chain position cursor → position ≤ maxTerms + 1) ∧
      (∀ (room repeats : Nat) (expression : Expression) (cursor afterMark next : Cursor),
        cursor.literal [';'] = (true, afterMark) →
          group room afterMark = .ok (repeats, expression, next) →
            cursor.skipBlanks.offset + 3 ≤ next.offset ∧
              ∃ (passed : List Char) (groupTokens : List Token) (written : WrittenGroup),
                cursor.Passes passed next ∧
                  tokens passed = .mark ';' :: groupTokens ∧
                  Grammar.Group groupTokens written) ∧
      (∀ (position further : Nat) (cursor afterMark : Cursor),
        (Call.chain position cursor).Makes (.chain further afterMark) →
          further = position + 1 ∧
            cursor.skipBlanks.offset + 3 ≤ afterMark.offset ∧
            ∃ (term : Term) (afterDie : Cursor),
              die cursor = .ok (term, afterDie) ∧ afterDie.offset < afterMark.offset) ∧
      (WellFounded fun made call : Call => call.Makes made) ∧
      (∀ tail : Nat → Cursor → Except NotationError (Expression × Cursor),
        (∀ (position : Nat) (cursor : Cursor),
            tail position cursor = chainStep tail position cursor) ↔
          tail = chain) ∧
      ∀ others : List Expression → Cursor → Except NotationError (List Expression × Cursor),
        (∀ (before : List Expression) (cursor : Cursor),
            others before cursor = groupsStep others before cursor) ↔
          others = groups := by
  refine ⟨?_, ?_, ?_, ?_, Call.wellFounded_makes, fun _ => eq_chainStep_iff,
    fun _ => eq_groupsStep_iff⟩
  · intro call next advances ends
    have inside := (advances.trans ends.takes.1.advances).extent_eq
    rw [Cursor.extent, Cursor.extent, Cursor.offset_ofText, Cursor.rest_ofText,
      byteLength_lowered] at inside
    exact ⟨ends.offset_add_two_le, by omega⟩
  · intro call reached
    refine ⟨reached.advances, ?_⟩
    rintro position cursor rfl
    exact reached.position_le
  · intro room repeats expression cursor afterMark next more read
    have mark := Cursor.offset_lt_of_literal more
    have blanks := (Cursor.Advances.skipBlanks afterMark).offset_le
    have group : afterMark.skipBlanks.offset + 2 ≤ next.offset :=
      (Call.EndsAt.group read).offset_add_two_le
    exact ⟨by omega, exists_passes_of_semicolon more read⟩
  · intro position further cursor afterMark makes
    cases makes with
    | @tail _ term _ afterDie _ few read joined =>
        obtain ⟨behindDie, behindStart⟩ := Call.offset_lt_of_tail read joined
        exact ⟨rfl, behindStart, term, afterDie, read, behindDie⟩

/-- A number that repeats nothing is given back, and the second group is read from it again. -/
theorem calls_progress_given_back :
    let text := "D6\u3000; 1 d4 & d6"
    let afterGroup : Cursor := ⟨5, [';', ' ', '1', ' ', 'd', '4', ' ', '&', ' ', 'd', '6']⟩
    let afterSemicolon : Cursor := ⟨6, [' ', '1', ' ', 'd', '4', ' ', '&', ' ', 'd', '6']⟩
    let start : Cursor := ⟨7, ['1', ' ', 'd', '4', ' ', '&', ' ', 'd', '6']⟩
    let afterAmpersand : Cursor := ⟨13, [' ', 'd', '6']⟩
    let next : Cursor := ⟨16, []⟩
    (Cursor.ofText (lowered text)).Advances start ∧
      (Call.chain 1 start).EndsAt next ∧
      (start.skipBlanks.offset + 2 ≤ next.offset ∧ next.offset ≤ text.utf8ByteSize) ∧
      Call.Reached text (.chain 2 afterAmpersand) ∧
      2 ≤ maxTerms + 1 ∧
      afterGroup.literal [';'] = (true, afterSemicolon) ∧
      group 999 afterSemicolon =
        .ok (1, .combine (.single fourSided) (.single sixSided), next) ∧
      afterGroup.skipBlanks.offset + 3 ≤ next.offset ∧
      (Call.chain 1 start).Makes (.chain 2 afterAmpersand) ∧
      start.skipBlanks.offset + 3 ≤ afterAmpersand.offset := by
  intro text afterGroup afterSemicolon start afterAmpersand next
  have small :
      lowered text =
        ['d', '6', '\u3000', ';', ' ', '1', ' ', 'd', '4', ' ', '&', ' ', 'd', '6'] := by
    decide +kernel
  have first :
      group (maxExpressions - ([] : List Expression).length) (Cursor.ofText (lowered text)) =
        .ok (1, .single sixSided, afterGroup) := by
    rw [small, group_eq, chain_eq]
    rfl
  have dieRead : die start = .ok (fourSided, ⟨12, ['&', ' ', 'd', '6']⟩) := by
    unfold start
    rfl
  have tailRead : chain 2 afterAmpersand = .ok (.single sixSided, next) := by
    rw [chain_eq]
    rfl
  have chainRead :
      chain 1 start = .ok (.combine (.single fourSided) (.single sixSided), next) := by
    have joined :
        chain 1 start =
          match chain 2 afterAmpersand with
          | .error error => .error error
          | .ok (right, last) => .ok (.combine (.single fourSided) right, last) := by
      rw [chain_eq, dieRead]
      rfl
    rw [joined, tailRead]
  have givenBack : repetitions afterSemicolon = (1, start) := rfl
  have groupRead :
      group 999 afterSemicolon =
        .ok (1, .combine (.single fourSided) (.single sixSided), next) := by
    rw [group_eq, givenBack, chainRead]
    rfl
  have turn : Turn ([], Cursor.ofText (lowered text)) ([.single sixSided], afterSemicolon) :=
    .group first rfl
  have makes : (Call.chain 1 start).Makes (.chain 2 afterAmpersand) :=
    .tail (by decide) dieRead rfl
  have reachedStart : Call.Reached text (.chain 1 start) :=
    Relation.ReflTransGen.refl.tail (.groups turn) |>.tail .group |>.tail (.chain (by decide))
  have reached : Call.Reached text (.chain 2 afterAmpersand) := reachedStart.tail makes
  obtain ⟨ends, calls, loop, recursion, -⟩ := calls_progress text
  have inText := (calls _ reachedStart).1
  exact ⟨inText, .chain chainRead, ends _ _ inText (.chain chainRead), reached,
    (calls _ reached).2 2 afterAmpersand rfl, rfl, groupRead,
    (loop 999 1 _ _ _ _ rfl groupRead).1, makes, (recursion 1 2 _ _ makes).2.1⟩

end Notation

end DiceCup
