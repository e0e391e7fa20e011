import DiceCup.Proofs.Notation.Refusal

/-!
# What a refusal is about

A refusal for a limit, or for numbers that make no term, accuses what stands at its place
(`blame_of_parse`).  Where a group breaks several limits, it is the first of them in the order in
which they are looked at: the repetitions, then the dice of the chain one after another, and then
their number.

The groups in front of the accused one are notations by themselves, and what they stand for takes
room from it.  So the loop over the groups is told by the texts of the groups that it has read
(`AtGroup`): `Turn.atGroup` is what one turn adds to them, and `atGroup_of_turns` is what any number
of turns does.
-/

namespace DiceCup

open Text Notation

/-! ## Groups in front of a group -/

/-- The text of one group and what it stands for by itself. -/
structure ReadGroup where
  text : String
  expressions : List Expression
  alone : ';' ∉ text.toList
  parsed : parse text = .ok expressions

namespace ReadGroup

/-- The text of some groups, each with a semicolon behind it. -/
def joinedText
    (groups : List ReadGroup) :
    String :=
  String.join (groups.map fun group => group.text ++ ";")

/-- What some groups stand for together. -/
def allExpressions
    (groups : List ReadGroup) :
    List Expression :=
  groups.flatMap ReadGroup.expressions

theorem joinedText_append
    (groups : List ReadGroup)
    (group : ReadGroup) :
    joinedText (groups ++ [group]) = joinedText groups ++ (group.text ++ ";") := by
  rw [joinedText, List.map_append, String.join_append, List.map_singleton, String.join_cons,
    String.join_nil, String.append_empty]
  rfl

theorem allExpressions_append
    (groups : List ReadGroup)
    (group : ReadGroup) :
    allExpressions (groups ++ [group]) = allExpressions groups ++ group.expressions := by
  rw [allExpressions, List.flatMap_append, List.flatMap_singleton]
  rfl

end ReadGroup

namespace Notation

open Grammar

/-- A semicolon has no capital letter. -/
theorem mem_lowered_semicolon
    {text : String} :
    ';' ∈ lowered text ↔ ';' ∈ text.toList := by
  constructor
  · intro member
    rcases mem_lowered member with inside | ⟨capital, -, ⟨lower, -⟩, sum⟩
    · exact inside
    · have code : (';' : Char).toNat = 59 := rfl
      omega
  · intro member
    exact List.mem_map.mpr ⟨';', member, by decide⟩

/-- A mark that is read is a character of the text. -/
theorem mem_rest_of_literal
    {mark : Char}
    {cursor : Cursor}
    (found : (cursor.literal [mark]).1 = true) :
    mark ∈ cursor.rest := by
  rw [Cursor.literal] at found
  split at found
  next here =>
    have member : mark ∈ cursor.skipBlanks.rest :=
      (List.isPrefixOf_iff_prefix.mp here).subset (List.mem_singleton_self mark)
    exact (List.dropWhile_suffix isBlank).subset member
  next => cases found

/-- A text that holds a semicolon is cut at the first one. -/
theorem exists_followedBy
    {text : String}
    {cursor : Cursor}
    (whole : cursor.rest = lowered text)
    (member : ';' ∈ cursor.rest) :
    ∃ first second : String,
      text = first ++ ";" ++ second ∧
        ';' ∉ first.toList ∧
        cursor =
          ((Cursor.ofText (lowered first)).shift cursor.offset).followedBy (lowered second) := by
  rw [whole, mem_lowered_semicolon] at member
  obtain ⟨first, second, cut, alone⟩ := List.eq_append_cons_of_mem member
  have text_eq : text = String.ofList first ++ ";" ++ String.ofList second := by
    apply String.toList_injective
    simp [cut]
  refine ⟨String.ofList first, String.ofList second, text_eq, ?_, ?_⟩
  · rw [String.toList_ofList]
    exact alone
  · apply Cursor.ext
    · exact (Nat.zero_add _).symm
    · rw [whole, text_eq, lowered_semicolon]
      rfl

/-- In front of a semicolon a group ends where the text in front of it ends. -/
theorem group_alone
    {room repeats : Nat}
    {cursor afterGroup afterMark : Cursor}
    {expression : Expression}
    {more : List Char}
    (alone : ';' ∉ cursor.rest)
    (read : group room (cursor.followedBy more) = .ok (repeats, expression, afterGroup))
    (found : afterGroup.literal [';'] = (true, afterMark)) :
    ∃ next : Cursor,
      group room cursor = .ok (repeats, expression, next) ∧
        next.skipBlanks.rest = [] ∧
        afterMark = (Cursor.ofText more).shift (cursor.extent + 1) := by
  rw [group_followedBy] at read
  split at read
  · cases read
  next next readAlone =>
    cases read
    refine ⟨next, readAlone, ?_⟩
    -- Were some of its text left, the semicolon found behind the group would be one of that text.
    by_cases finished : next.skipBlanks.rest = []
    · rw [Cursor.semicolon_between finished, Prod.mk.injEq,
        (leads_of_group readAlone).advances.extent_eq] at found
      exact ⟨finished, found.2.symm⟩
    · rw [Cursor.semicolon_followedBy finished, Prod.mk.injEq] at found
      exact (alone ((leads_of_group readAlone).mem_rest (mem_rest_of_literal found.1))).elim

/-- A group that is read up to the end of its text is all that this text stands for. -/
theorem parse_of_group
    {text : String}
    {room bytes repeats : Nat}
    {next : Cursor}
    {expression : Expression}
    (small : room ≤ maxExpressions)
    (read :
      group room ((Cursor.ofText (lowered text)).shift bytes) =
        .ok (repeats, expression, next))
    (finished : next.skipBlanks.rest = []) :
    parse text = .ok (List.replicate repeats expression) := by
  have fits : (repetitions ((Cursor.ofText (lowered text)).shift bytes)).1 ≤ room := by
    rw [← (repeats_of_group read).1]
    exact (repeats_of_group read).2
  have last : (next.literal [';']).1 ≠ true := fun found =>
    Cursor.unfinished_of_literal (Prod.ext found rfl) finished
  have ends : (next.literal [';']).2.skipBlanks.rest = [] := by
    have missing : next.literal [';'] = (false, (next.literal [';']).2) :=
      Prod.ext (Bool.eq_false_iff.mpr last) rfl
    rw [Cursor.literal_missing missing, Cursor.skipBlanks_skipBlanks]
    exact finished
  have whole :
      conclude (groups [] ((Cursor.ofText (lowered text)).shift bytes)) =
        .ok (List.replicate repeats expression) := by
    rw [groups_eq, List.length_nil, Nat.sub_zero, ← group_of_le small fits, read]
    dsimp only
    rw [if_neg last, conclude, if_pos ends, List.nil_append]
  rw [groups_shift, conclude_shift, ← parse_eq] at whole
  cases parsed : parse text with
  | error error =>
      rw [parsed] at whole
      cases whole
  | ok expressions =>
      rw [parsed] at whole
      exact whole

/-! ## The loop over the groups -/

/-- A cursor in front of the rest of a text, of which it has read the groups in front of that. -/
structure AtGroup
    (text : String)
    (earlier : List ReadGroup)
    (rest : String)
    (cursor : Cursor) :
    Prop where
  text_eq : text = ReadGroup.joinedText earlier ++ rest
  rest_eq : cursor.rest = lowered rest
  offset_eq : cursor.offset = (ReadGroup.joinedText earlier).utf8ByteSize

/-- A turn of the loop reads the group that comes first in the rest of the text. -/
theorem Turn.atGroup
    {text rest : String}
    {earlier : List ReadGroup}
    {start next : List Expression × Cursor}
    (turn : Turn start next)
    (here : AtGroup text earlier rest start.2) :
    ∃ (group : ReadGroup) (others : String),
      AtGroup text (earlier ++ [group]) others next.2 ∧
        next.1 = start.1 ++ group.expressions := by
  cases turn with
  | @group before cursor afterGroup afterMark repeats expression read more =>
      have found : (afterGroup.literal [';']).1 = true := by rw [more]
      have inside := (leads_of_group read).mem_rest (mem_rest_of_literal found)
      obtain ⟨first, second, cut, alone, whole⟩ := exists_followedBy here.rest_eq inside
      dsimp only at whole
      rw [whole] at read
      have aloneSmall : ';' ∉ lowered first := mt mem_lowered_semicolon.mp alone
      obtain ⟨last, readAlone, finished, after⟩ := group_alone aloneSmall read more
      have parsed := parse_of_group (Nat.sub_le _ _) readAlone finished
      refine ⟨⟨first, _, alone, parsed⟩, second, ⟨?_, ?_, ?_⟩, rfl⟩
      · rw [here.text_eq, cut, ReadGroup.joinedText_append]
        simp only [String.append_assoc]
      · rw [after]
        rfl
      · have place : cursor.offset = (ReadGroup.joinedText earlier).utf8ByteSize := here.offset_eq
        have oneByte : (";" : String).utf8ByteSize = 1 := by decide
        rw [after, ReadGroup.joinedText_append, String.utf8ByteSize_append,
          String.utf8ByteSize_append, oneByte, ← place]
        show 0 + (0 + cursor.offset + byteLength (lowered first) + 1) =
          cursor.offset + (first.utf8ByteSize + 1)
        rw [byteLength_lowered]
        omega

theorem atGroup_of_turns
    {text : String}
    {before : List Expression}
    {cursor : Cursor}
    (turns : Turns (lowered text) before cursor) :
    ∃ (earlier : List ReadGroup) (rest : String),
      AtGroup text earlier rest cursor ∧ before = ReadGroup.allExpressions earlier := by
  refine turns.holds
    (fun state =>
      ∃ (earlier : List ReadGroup) (rest : String),
        AtGroup text earlier rest state.2 ∧ state.1 = ReadGroup.allExpressions earlier)
    ?_ ?_
  · exact ⟨[], text, ⟨rfl, rfl, rfl⟩, rfl⟩
  · rintro start next turn ⟨earlier, rest, here, same⟩
    obtain ⟨group, others, further, grown⟩ := turn.atGroup here
    refine ⟨earlier ++ [group], others, further, ?_⟩
    rw [grown, same, ReadGroup.allExpressions_append]

/-! ## Places in a group and in its chain -/

/--
A place in a text, told by the groups in front of the group it is in, the tokens of its own group in
front of it and the tokens from there on.
-/
inductive InGroup
    (text : String) :
    Nat → List ReadGroup → List Token → List Token → Prop where
  | behind
      {earlier : List ReadGroup}
      {rest front back : String}
      (text_eq : text = ReadGroup.joinedText earlier ++ rest)
      (splits : Splits rest front back) :
      InGroup text ((ReadGroup.joinedText earlier).utf8ByteSize + front.utf8ByteSize) earlier
        (tokens (lowered front)) (tokens (lowered back))

/--
A place in a text where a die of a chain starts: there is room for the repetitions of its group, and
the dice that are joined in front of it make terms.
-/
inductive InChain
    (text : String) :
    Nat → List ReadGroup → List WrittenTerm → List Token → Prop where
  | behind
      {place repeats : Nat}
      {earlier : List ReadGroup}
      {used joinedTokens ahead : List Token}
      {terms : List WrittenTerm}
      (inGroup : InGroup text place earlier used ahead)
      (repeated : Repeats (used ++ ahead) repeats (joinedTokens ++ ahead))
      (fits : (ReadGroup.allExpressions earlier).length + repeats ≤ 1000)
      (joined : Joined joinedTokens terms)
      (valid : ∀ written ∈ terms, written.Valid) :
      InChain text place earlier terms ahead

/-- What the cursor of a group leads to is a place in that group. -/
theorem AtGroup.inGroup
    {text rest : String}
    {earlier : List ReadGroup}
    {cursor here : Cursor}
    (start : AtGroup text earlier rest cursor)
    (leads : cursor.Leads here) :
    ∃ used : List Token,
      tokens cursor.rest = used ++ tokens here.rest ∧
        InGroup text here.skipBlanks.offset earlier used (tokens here.rest) := by
  obtain ⟨front, back, splits, offset, ahead, back_eq⟩ := exists_splits start.rest_eq leads
  refine ⟨_, ahead, ?_⟩
  rw [offset, start.offset_eq, ← Cursor.tokens_skipBlanks, back_eq]
  exact .behind start.text_eq splits

/-- A group starts behind none of its tokens. -/
theorem AtGroup.inGroup_start
    {text rest : String}
    {earlier : List ReadGroup}
    {cursor : Cursor}
    (start : AtGroup text earlier rest cursor) :
    InGroup text cursor.skipBlanks.offset earlier [] (tokens cursor.rest) := by
  obtain ⟨used, ahead, inGroup⟩ := start.inGroup (Cursor.Leads.refl cursor)
  rw [List.self_eq_append_left] at ahead
  rw [ahead] at inGroup
  exact inGroup

/-- What the chain of a group leads to is a place in that chain. -/
theorem AtGroup.inChain
    {text rest : String}
    {earlier : List ReadGroup}
    {cursor chainStart here : Cursor}
    {repeats : Nat}
    {terms : List WrittenTerm}
    (start : AtGroup text earlier rest cursor)
    (repeated : Repeats (tokens cursor.rest) repeats (tokens chainStart.rest))
    (fits : (ReadGroup.allExpressions earlier).length + repeats ≤ maxExpressions)
    (leads : cursor.Leads chainStart)
    (inside : InsideChain chainStart terms here) :
    InChain text here.skipBlanks.offset earlier terms (tokens here.rest) := by
  obtain ⟨joinedTokens, joined, ahead⟩ := inside.joined
  obtain ⟨used, whole, inGroup⟩ := start.inGroup (leads.trans inside.leads)
  rw [whole, ahead] at repeated
  exact .behind inGroup repeated fits joined inside.valid

/-! ## What is accused -/

/-- A die of a chain whose numbers make no term, for the reason that is given. -/
def FaultyDie
    (text : String)
    (position : Nat)
    (fault : Term.Fault) :
    Prop :=
  ∃ (earlier : List ReadGroup) (terms : List WrittenTerm) (dieTokens left : List Token)
    (count sides : UInt32),
    InChain text position earlier terms (dieTokens ++ left) ∧
      terms.length < 100 ∧
      Die dieTokens count sides ∧
      Term.make count sides 0 = .error fault

/-- A group that is repeated too often, though there is room for the groups in front of it. -/
def CrowdedGroup
    (text : String)
    (position : Nat) :
    Prop :=
  ∃ (earlier : List ReadGroup) (ahead chainTokens : List Token) (repeats : Nat),
    InGroup text position earlier [] ahead ∧
      Repeats ahead repeats chainTokens ∧
      (ReadGroup.allExpressions earlier).length ≤ 1000 ∧
      1000 < (ReadGroup.allExpressions earlier).length + repeats

/-- A place for one more die in a chain of as many dice as there may be, all of which make terms. -/
def FullChain
    (text : String)
    (position : Nat) :
    Prop :=
  ∃ (earlier : List ReadGroup) (terms : List WrittenTerm) (ahead : List Token),
    InChain text position earlier terms ahead ∧ terms.length = 100

/--
A group with too many dice, though its chain is not too long, each of its dice makes a term, and
there is room for its repetitions.
-/
def HeavyGroup
    (text : String)
    (position : Nat) :
    Prop :=
  ∃ (earlier : List ReadGroup) (ahead chainTokens : List Token) (repeats : Nat)
    (first : WrittenTerm) (others : List WrittenTerm),
    InGroup text position earlier [] ahead ∧
      Repeats ahead repeats chainTokens ∧
      (ReadGroup.allExpressions earlier).length + repeats ≤ 1000 ∧
      LongestDice chainTokens first others ∧
      (∀ written ∈ first :: others, written.Valid) ∧
      (first :: others).length ≤ 100 ∧
      10000 < WrittenTerm.countAll (first :: others)

/--
A text that goes on behind its last group apart, a refusal comes from a group, and there is room for
the groups in front of it.
-/
theorem refused_atGroup
    {text : String}
    {error : NotationError}
    (refused : parse text = .error error)
    (inside : ∀ (position : Nat) (found : String), error ≠ .trailing position found) :
    ∃ (earlier : List ReadGroup) (rest : String) (cursor : Cursor),
      AtGroup text earlier rest cursor ∧
        (ReadGroup.allExpressions earlier).length ≤ maxExpressions ∧
        GroupRefused (maxExpressions - (ReadGroup.allExpressions earlier).length) cursor error := by
  rcases refused_of_parse refused with groupsRefused | ⟨_, _, _, _, same⟩
  · obtain ⟨before, cursor, turns, groupRefused⟩ := exists_turns_of_refused groupsRefused
    have few := length_le_of_turns turns
    obtain ⟨earlier, rest, here, rfl⟩ := atGroup_of_turns turns
    exact ⟨earlier, rest, cursor, here, few, refused_of_group groupRefused⟩
  · exact (inside _ _ same).elim

/-- A chain is refused for no other quantity than its terms. -/
theorem ChainRefused.quantity_eq
    {position place : Nat}
    {cursor : Cursor}
    {quantity : Quantity}
    (refused : ChainRefused position cursor (.tooMany place quantity)) :
    quantity = .terms := by
  cases refused with
  | die _ _ dieRefused => cases dieRefused
  | crowded => rfl

/-- One expression that is not read back from its written form has too many terms or dice. -/
theorem tooMany_of_render
    {expression : Expression}
    (outside : ¬ Readable [expression]) :
    ∃ position : Nat,
      100 < expression.terms.length ∧
          parse expression.render = .error (.tooMany position .terms) ∨
        10000 < expression.diceCount ∧
          parse expression.render = .error (.tooMany position .dice) := by
  rcases parse_of_roll (.last (group_render expression)) with
    ⟨within, -⟩ | ⟨error, refused, breaks⟩
  · exact (outside (withinLimits_written_iff.mp within)).elim
  · change BreaksLimit ([expression].map Expression.written) error at breaks
    obtain ⟨position, quantity, rfl⟩ := tooMany_of_breaksLimit breaks
    refine ⟨position, ?_⟩
    rcases breaks with ⟨group, member, breaks⟩ | ⟨-, many⟩
    · rw [List.map_singleton, List.mem_singleton] at member
      rw [member] at breaks
      cases quantity with
      | expressions => exact breaks.elim
      | terms =>
          have many : 100 < expression.written.terms.length := breaks
          rw [Expression.terms_written, List.length_map] at many
          exact Or.inl ⟨many, refused⟩
      | dice =>
          have many : 10000 < WrittenTerm.countAll expression.written.terms := breaks
          rw [Expression.terms_written, countAll_written] at many
          exact Or.inr ⟨many, refused⟩
    · rw [repeatsAll_written, List.length_singleton] at many
      exact absurd many (by decide)

/--
A refusal for a limit, or for numbers that make no term, is about what stands at its place, and all
groups in front of that are notations by themselves.  A refusal for a limit names what there is too
much of.
-/
theorem blame_of_parse
    (text : String)
    (position : Nat) :
    (∀ fault : Term.Fault,
        parse text = .error (.invalidDie position fault) → FaultyDie text position fault) ∧
      (parse text = .error (.tooMany position .expressions) → CrowdedGroup text position) ∧
      (parse text = .error (.tooMany position .terms) → FullChain text position) ∧
      (parse text = .error (.tooMany position .dice) → HeavyGroup text position) ∧
      (Quantity.expressions.describe, Quantity.terms.describe, Quantity.dice.describe) =
        ("expressions", "terms joined with '&'", "dice in one expression") := by
  refine ⟨?_, ?_, ?_, ?_, rfl⟩
  · intro fault refused
    obtain ⟨earlier, rest, cursor, here, few, groupRefused⟩ :=
      refused_atGroup refused (by rintro _ _ ⟨⟩)
    cases groupRefused with
    | chain repeated fits leadsRepeats chainRefused =>
        cases chainRefused with
        | die inside short dieRefused =>
            have inChain := here.inChain repeated (by omega) leadsRepeats inside
            cases dieRefused with
            | invalid written dieAhead faulty =>
                rw [dieAhead] at inChain
                rw [maxTerms] at short
                exact ⟨earlier, _, _, _, _, _, inChain, by omega, written, faulty⟩
  · intro refused
    obtain ⟨earlier, rest, cursor, here, few, groupRefused⟩ :=
      refused_atGroup refused (by rintro _ _ ⟨⟩)
    cases groupRefused with
    | chain _ _ _ chainRefused => cases chainRefused.quantity_eq
    | expressions repeated many =>
        rw [maxExpressions] at few many
        exact ⟨earlier, _, _, _, here.inGroup_start, repeated, few, by omega⟩
  · intro refused
    obtain ⟨earlier, rest, cursor, here, few, groupRefused⟩ :=
      refused_atGroup refused (by rintro _ _ ⟨⟩)
    cases groupRefused with
    | chain repeated fits leadsRepeats chainRefused =>
        cases chainRefused with
        | die _ _ dieRefused => cases dieRefused
        | crowded inside full =>
            have inChain := here.inChain repeated (by omega) leadsRepeats inside
            rw [maxTerms] at full
            exact ⟨earlier, _, _, inChain, by omega⟩
  · intro refused
    obtain ⟨earlier, rest, cursor, here, few, groupRefused⟩ :=
      refused_atGroup refused (by rintro _ _ ⟨⟩)
    cases groupRefused with
    | chain _ _ _ chainRefused => cases chainRefused.quantity_eq
    | dice repeated fits longest valid short many =>
        rw [maxExpressions] at few fits
        exact ⟨earlier, _, _, _, _, _, here.inGroup_start, repeated, by omega, longest, valid,
          short, many⟩

/-- One term more than an expression may join, and few dice. -/
def longExpression :
    Expression :=
  .ofTerms sixSided (List.replicate 100 sixSided)

/-- One die more than an expression may roll, and few terms. -/
def heavyExpression :
    Expression :=
  .ofTerms (WrittenTerm.term ⟨9999, 2, 0⟩ ⟨by decide, by decide, by decide⟩) [sixSided, fourSided]

/-- Repetitions are accused before the dice behind them, and each of the other causes is met. -/
theorem blame_of_parse_each :
    (parse "D6;1000X 0d4" = .error (.tooMany 3 .expressions) ∧ CrowdedGroup "D6;1000X 0d4" 3) ∧
      (parse "2x D1" = .error (.invalidDie 3 (.tooFewSides 1)) ∧
        FaultyDie "2x D1" 3 (.tooFewSides 1)) ∧
      (∃ position : Nat,
        parse longExpression.render = .error (.tooMany position .terms) ∧
          FullChain longExpression.render position) ∧
      ∃ position : Nat,
        parse heavyExpression.render = .error (.tooMany position .dice) ∧
          HeavyGroup heavyExpression.render position := by
  have crowded : parse "D6;1000X 0d4" = .error (.tooMany 3 .expressions) := by
    have small :
        lowered "D6;1000X 0d4" =
          ['d', '6', ';', '1', '0', '0', '0', 'x', ' ', '0', 'd', '4'] := by
      decide +kernel
    have first :
        group (maxExpressions - ([] : List Expression).length)
            (Cursor.ofText (lowered "D6;1000X 0d4")) =
          .ok (1, .single sixSided, ⟨2, [';', '1', '0', '0', '0', 'x', ' ', '0', 'd', '4']⟩) := by
      rw [small, group_eq, chain_eq]
      rfl
    rw [parse_eq, (Turn.group first rfl).groups_eq, groups_eq, group_of_lt (by decide)]
    rfl
  have faulty : parse "2x D1" = .error (.invalidDie 3 (.tooFewSides 1)) := by
    have small : lowered "2x D1" = ['2', 'x', ' ', 'd', '1'] := by
      decide +kernel
    rw [parse_eq, small, groups_eq, group_eq, chain_eq]
    rfl
  have long : ∃ position : Nat,
      parse longExpression.render = .error (.tooMany position .terms) := by
    have outside : ¬ Readable [longExpression] := fun readable =>
      absurd (readable.terms_le _ List.mem_cons_self) (by decide)
    obtain ⟨position, ⟨-, refused⟩ | ⟨manyDice, -⟩⟩ := tooMany_of_render outside
    · exact ⟨position, refused⟩
    · exact absurd manyDice (by decide)
  have heavy : ∃ position : Nat,
      parse heavyExpression.render = .error (.tooMany position .dice) := by
    have outside : ¬ Readable [heavyExpression] := fun readable =>
      absurd (readable.dice_le _ List.mem_cons_self) (by decide)
    obtain ⟨position, ⟨manyTerms, -⟩ | ⟨-, refused⟩⟩ := tooMany_of_render outside
    · exact absurd manyTerms (by decide)
    · exact ⟨position, refused⟩
  obtain ⟨longPosition, long⟩ := long
  obtain ⟨heavyPosition, heavy⟩ := heavy
  exact ⟨⟨crowded, (blame_of_parse _ _).2.1 crowded⟩, ⟨faulty, (blame_of_parse _ _).1 _ faulty⟩,
    ⟨longPosition, long, (blame_of_parse _ _).2.2.1 long⟩,
    heavyPosition, heavy, (blame_of_parse _ _).2.2.2.1 heavy⟩

end Notation

end DiceCup
