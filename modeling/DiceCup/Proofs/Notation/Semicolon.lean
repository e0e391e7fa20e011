import DiceCup.Proofs.Notation.Reach
import Mathlib.Data.List.Forall2

/-!
# Two notations with a semicolon between them

What a notation says is not changed by a semicolon and more text after it: no read inside a group
looks past a semicolon.  So the groups of the first text are read as they are read alone, and the
second text is then read from its place behind the semicolon.

Only one thing leaks from the first text into the second: the expressions that the first stands for
take room from those of the second.  `groups_earlier` tells what that does, and `parse_semicolon`
puts both halves together.  Any number of notations that leave enough room stand for what all of
them stand for (`parse_intercalate`).
-/

namespace DiceCup

open Text

namespace Cursor

/-- A cursor in a text that goes on with a semicolon and more characters. -/
def followedBy
    (cursor : Cursor)
    (more : List Char) :
    Cursor where
  offset := cursor.offset
  rest := cursor.rest ++ ';' :: more

/-- A cursor in a text that some bytes were put in front of. -/
def shift
    (cursor : Cursor)
    (bytes : Nat) :
    Cursor where
  offset := cursor.offset + bytes
  rest := cursor.rest

/-! ## Reads before a semicolon -/

/-- Characters of a kind without the semicolon end before it. -/
theorem takeWhile_followedBy
    {kind : Char → Bool}
    (stops : kind ';' = false)
    (cursor : Cursor)
    (more : List Char) :
    (cursor.followedBy more).rest.takeWhile kind = cursor.rest.takeWhile kind ∧
      (cursor.followedBy more).rest.dropWhile kind =
        cursor.rest.dropWhile kind ++ ';' :: more := by
  rw [followedBy]
  induction cursor.rest with
  | nil => simp [stops]
  | cons first rest inductionHypothesis =>
      cases shape : kind first with
      | false => simp [shape]
      | true => simpa [shape] using inductionHypothesis

theorem pass_followedBy
    {kind : Char → Bool}
    (stops : kind ';' = false)
    (cursor : Cursor)
    (more : List Char) :
    (cursor.followedBy more).pass kind = (cursor.pass kind).followedBy more := by
  have parts := takeWhile_followedBy stops cursor more
  rw [pass, parts.1, parts.2]
  rfl

theorem skipBlanks_followedBy
    (cursor : Cursor)
    (more : List Char) :
    (cursor.followedBy more).skipBlanks = cursor.skipBlanks.followedBy more :=
  pass_followedBy (by decide) cursor more

theorem number_followedBy
    (cursor : Cursor)
    (more : List Char) :
    (cursor.followedBy more).number =
      (cursor.number.1, cursor.number.2.followedBy more) := by
  have digits : Char.isDigit ';' = false := by decide
  rw [number, skipBlanks_followedBy, (takeWhile_followedBy digits _ more).1,
    pass_followedBy digits, number]
  split <;> rfl

theorem literal_followedBy
    {mark : Char}
    (other : mark ≠ ';')
    (cursor : Cursor)
    (more : List Char) :
    (cursor.followedBy more).literal [mark] =
      ((cursor.literal [mark]).1, (cursor.literal [mark]).2.followedBy more) := by
  rw [literal, skipBlanks_followedBy, literal]
  rcases cursor.skipBlanks with ⟨offset, rest⟩
  cases rest with
  | nil => simp [followedBy, other]
  | cons first rest =>
      by_cases same : mark = first
      · simp [followedBy, same]
      · simp [followedBy, same]

/-- Before the end of the first text a semicolon is read as it is read there alone. -/
theorem semicolon_followedBy
    {cursor : Cursor}
    (unfinished : cursor.skipBlanks.rest ≠ [])
    (more : List Char) :
    (cursor.followedBy more).literal [';'] =
      ((cursor.literal [';']).1, (cursor.literal [';']).2.followedBy more) := by
  rw [literal, skipBlanks_followedBy, literal]
  generalize cursor.skipBlanks = start at unfinished
  rcases start with ⟨offset, rest⟩
  cases rest with
  | nil => exact (unfinished rfl).elim
  | cons first rest =>
      by_cases same : ';' = first
      · simp [followedBy, ← same]
      · simp [followedBy, same]

/-- At the end of the first text the semicolon between the texts is read. -/
theorem semicolon_between
    {cursor : Cursor}
    (finished : cursor.skipBlanks.rest = [])
    (more : List Char) :
    (cursor.followedBy more).literal [';'] =
      (true, (Cursor.ofText more).shift (cursor.extent + 1)) := by
  have ends : cursor.skipBlanks.offset = cursor.extent := by
    rw [← (Advances.skipBlanks cursor).extent_eq, extent, finished]
    rfl
  rw [literal, skipBlanks_followedBy, ← ends]
  generalize cursor.skipBlanks = start at finished
  rcases start with ⟨offset, rest⟩
  cases finished
  have oneByte : byteLength [';'] = 1 := by decide
  simp only [followedBy, shift, ofText, List.nil_append, List.isPrefixOf_cons_cons,
    beq_self_eq_true, List.isPrefixOf_nil_left, Bool.and_self, if_true, oneByte,
    List.length_cons, List.length_nil, List.drop_succ_cons, List.drop_zero, Nat.zero_add]

/-- A literal that is read stands before the end of the text. -/
theorem unfinished_of_literal
    {mark : Char}
    {cursor next : Cursor}
    (found : cursor.literal [mark] = (true, next)) :
    cursor.skipBlanks.rest ≠ [] := by
  intro finished
  rw [literal, finished] at found
  simp at found

/-! ## Reads behind other characters -/

@[simp]
theorem rest_shift
    (cursor : Cursor)
    (bytes : Nat) :
    (cursor.shift bytes).rest = cursor.rest :=
  rfl

theorem pass_shift
    (cursor : Cursor)
    (kind : Char → Bool)
    (bytes : Nat) :
    (cursor.shift bytes).pass kind = (cursor.pass kind).shift bytes := by
  apply Cursor.ext
  · exact Nat.add_right_comm _ _ _
  · rfl

theorem skipBlanks_shift
    (cursor : Cursor)
    (bytes : Nat) :
    (cursor.shift bytes).skipBlanks = cursor.skipBlanks.shift bytes :=
  cursor.pass_shift isBlank bytes

theorem number_shift
    (cursor : Cursor)
    (bytes : Nat) :
    (cursor.shift bytes).number = (cursor.number.1, cursor.number.2.shift bytes) := by
  rw [number, skipBlanks_shift, rest_shift, pass_shift, number]
  split <;> rfl

theorem literal_shift
    (token : List Char)
    (cursor : Cursor)
    (bytes : Nat) :
    (cursor.shift bytes).literal token =
      ((cursor.literal token).1, (cursor.literal token).2.shift bytes) := by
  rw [literal, skipBlanks_shift, literal]
  by_cases found : token.isPrefixOf cursor.skipBlanks.rest = true
  · simp only [shift, found, if_true, Nat.add_right_comm]
  · simp only [shift, found, if_false, Bool.false_eq_true]

end Cursor

/-- A refusal whose quoted text goes on; the other refusals quote none. -/
def NotationError.followedBy
    (more : String) :
    NotationError → NotationError
  | .trailing position found => .trailing position (found ++ more)
  | .missing position wanted => .missing position wanted
  | .tooMany position quantity => .tooMany position quantity
  | .invalidDie position fault => .invalidDie position fault

/-- A refusal in a text that some bytes were put in front of. -/
def NotationError.shift
    (bytes : Nat) :
    NotationError → NotationError
  | .missing position wanted => .missing (position + bytes) wanted
  | .trailing position found => .trailing (position + bytes) found
  | .tooMany position quantity => .tooMany (position + bytes) quantity
  | .invalidDie position fault => .invalidDie (position + bytes) fault

namespace Notation

theorem followedBy_simulation
    (more : List Char) :
    Simulation (fun left right => right = left.followedBy more) Eq where
  place := by
    rintro cursor _ rfl
    rw [Cursor.skipBlanks_followedBy]
    rfl
  skipBlanks := by
    rintro cursor _ rfl
    rw [Cursor.skipBlanks_followedBy]
  number := by
    rintro cursor _ rfl
    rw [Cursor.number_followedBy]
    exact ⟨rfl, rfl⟩
  literal := by
    rintro cursor _ mark member rfl
    have other : mark ≠ ';' := by
      rintro rfl
      revert member
      decide
    rw [Cursor.literal_followedBy other]
    exact ⟨rfl, rfl⟩

theorem shift_simulation
    (bytes : Nat) :
    Simulation
      (fun left right => right = left.shift bytes)
      (fun left right => right = left + bytes) where
  place := by
    rintro cursor _ rfl
    rw [Cursor.skipBlanks_shift]
    rfl
  skipBlanks := by
    rintro cursor _ rfl
    rw [Cursor.skipBlanks_shift]
  number := by
    rintro cursor _ rfl
    rw [Cursor.number_shift]
    exact ⟨rfl, rfl⟩
  literal := by
    rintro cursor _ mark - rfl
    rw [Cursor.literal_shift]
    exact ⟨rfl, rfl⟩

theorem Moved.eq
    {left right : NotationError}
    (moved : Moved Eq left right) :
    right = left := by
  cases moved with
  | missing _ places => rw [places]
  | tooMany _ places => rw [places]
  | invalidDie _ places => rw [places]

theorem Moved.eq_shift
    {bytes : Nat}
    {left right : NotationError}
    (moved : Moved (fun left right => right = left + bytes) left right) :
    right = left.shift bytes := by
  cases moved with
  | missing _ places => rw [places, NotationError.shift]
  | tooMany _ places => rw [places, NotationError.shift]
  | invalidDie _ places => rw [places, NotationError.shift]

/-- A group is read in a text that goes on as it is read in the text alone. -/
theorem group_followedBy
    (room : Nat)
    (cursor : Cursor)
    (more : List Char) :
    group room (cursor.followedBy more) =
      match group room cursor with
      | .error error => .error error
      | .ok (repeats, expression, next) =>
        .ok (repeats, expression, next.followedBy more) := by
  have agree : Agree _ _ (group room cursor) (group room (cursor.followedBy more)) :=
    (followedBy_simulation more).group rfl room
  cases alone : group room cursor with
  | error error =>
      rw [alone] at agree
      obtain ⟨other, refused, moved⟩ := agree.of_error
      rw [refused, moved.eq]
  | ok reading =>
      rcases reading with ⟨repeats, expression, next⟩
      rw [alone] at agree
      obtain ⟨right, read, rfl⟩ := agree.of_okGroup
      rw [read]

/-! ## The first text -/

/-- The groups of the first text are read as they are read alone, and then those of the second. -/
theorem groups_followedBy
    (before : List Expression)
    (cursor : Cursor)
    (more : List Char) :
    groups before (cursor.followedBy more) =
      match groups before cursor with
      | .error error => .error error
      | .ok (expressions, next) =>
        if next.skipBlanks.rest = [] then
          groups expressions ((Cursor.ofText more).shift (cursor.extent + 1))
        else
          .ok (expressions, next.followedBy more) := by
  fun_induction groups before cursor with
  | case1 before cursor error refused =>
      rw [groups_eq, group_followedBy, refused]
  | case2 before cursor repeats expression afterGroup read expressions next =>
      rename_i last
      have here := Cursor.literal_missing last
      rw [groups_eq before, group_followedBy, read]
      by_cases finished : afterGroup.skipBlanks.rest = []
      · simp only [Cursor.semicolon_between finished, if_true, here, Cursor.skipBlanks_skipBlanks,
          finished, (leads_of_group read).advances.extent_eq]
        rfl
      · simp only [Cursor.semicolon_followedBy finished, last, here,
          Cursor.skipBlanks_skipBlanks, finished, if_false, Bool.false_eq_true]
        rfl
  | case3 before cursor repeats expression afterGroup read expressions afterMark found =>
      rename_i inductionHypothesis
      have unfinished := Cursor.unfinished_of_literal found
      have extent : afterMark.extent = cursor.extent := by
        have onward := (leads_of_group read).advances.trans (.literal [';'] afterGroup)
        rw [found] at onward
        exact onward.extent_eq
      rw [groups_eq before, group_followedBy, read]
      simp only [Cursor.semicolon_followedBy unfinished, found, if_true]
      rw [← extent]
      exact inductionHypothesis

/-! ## The second text -/

/-- Groups are read behind other characters as they are read alone, their places apart. -/
theorem groups_shift
    (before : List Expression)
    (cursor : Cursor)
    (bytes : Nat) :
    groups before (cursor.shift bytes) =
      match groups before cursor with
      | .error error => .error (error.shift bytes)
      | .ok (expressions, next) => .ok (expressions, next.shift bytes) := by
  have semicolon : ∀ {left right : Cursor}, right = left.shift bytes →
      (left.literal [';']).1 = (right.literal [';']).1 ∧
        (right.literal [';']).2 = (left.literal [';']).2.shift bytes := by
    rintro left _ rfl
    rw [Cursor.literal_shift]
    exact ⟨rfl, rfl⟩
  have agree : Agree _ _ (groups before cursor) (groups before (cursor.shift bytes)) :=
    (shift_simulation bytes).groups semicolon rfl before
  cases alone : groups before cursor with
  | error error =>
      rw [alone] at agree
      obtain ⟨other, refused, moved⟩ := agree.of_error
      rw [refused, moved.eq_shift]
  | ok reading =>
      rcases reading with ⟨expressions, next⟩
      rw [alone] at agree
      obtain ⟨right, read, rfl⟩ := agree.of_ok
      rw [read]

/-- A group that there is no room for is refused before its dice are looked at. -/
theorem group_of_lt
    {room : Nat}
    {cursor : Cursor}
    (crowded : room < (repetitions cursor).1) :
    group room cursor = .error (.tooMany cursor.skipBlanks.offset .expressions) := by
  rw [group_eq, if_pos crowded]

/-- A group that there is room for is read the same with less room. -/
theorem group_of_le
    {room less : Nat}
    {cursor : Cursor}
    (small : less ≤ room)
    (fits : (repetitions cursor).1 ≤ less) :
    group less cursor = group room cursor := by
  rw [group_eq, group_eq, if_neg (Nat.not_lt.mpr fits),
    if_neg (Nat.not_lt.mpr (Nat.le_trans fits small))]

/-- There was room for a group that was read. -/
theorem repeats_of_group
    {room repeats : Nat}
    {cursor next : Cursor}
    {expression : Expression}
    (read : group room cursor = .ok (repeats, expression, next)) :
    repeats = (repetitions cursor).1 ∧ repeats ≤ room := by
  rw [group_eq] at read
  split at read
  · cases read
  next fits =>
    split at read
    · cases read
    · split at read
      · cases read
      · cases read
        exact ⟨rfl, Nat.not_lt.mp fits⟩

/-- What was read before is kept. -/
theorem length_le_of_groups
    {before result : List Expression}
    {cursor last : Cursor}
    (read : groups before cursor = .ok (result, last)) :
    before.length ≤ result.length := by
  refine groups_invariant (before.length ≤ ·.length) (fun first kept => ?_) read (Nat.le_refl _)
  rw [List.length_append]
  exact Nat.le_add_right_of_le kept

/-- There is room for the expressions of a group that is read. -/
theorem length_le_of_group
    {before : List Expression}
    {cursor next : Cursor}
    {repeats : Nat}
    {expression : Expression}
    (read : group (maxExpressions - before.length) cursor = .ok (repeats, expression, next))
    (few : before.length ≤ maxExpressions) :
    (before ++ List.replicate repeats expression).length ≤ maxExpressions := by
  have room := (repeats_of_group read).2
  rw [List.length_append, List.length_replicate]
  omega

/-- More expressions than a notation may stand for are never read. -/
theorem length_le_maxExpressions
    {before result : List Expression}
    {cursor last : Cursor}
    (few : before.length ≤ maxExpressions)
    (read : groups before cursor = .ok (result, last)) :
    result.length ≤ maxExpressions :=
  groups_invariant (·.length ≤ maxExpressions) length_le_of_group read few

/-- What earlier expressions do to the groups that come after them. -/
def Crowded
    (earlier : List Expression) :
    Except NotationError (List Expression × Cursor) →
      Except NotationError (List Expression × Cursor) → Prop
  | .error error, after =>
    after = .error error ∨
      ∃ place ≤ error.position, after = .error (.tooMany place .expressions)
  | .ok (expressions, next), after =>
    if earlier.length + expressions.length ≤ maxExpressions then
      after = .ok (earlier ++ expressions, next)
    else
      ∃ place ≤ next.skipBlanks.offset, after = .error (.tooMany place .expressions)

/-- Groups whose first one finds no room are refused there. -/
theorem crowded_of_lt
    {earlier before : List Expression}
    {cursor : Cursor}
    (few : earlier.length + before.length ≤ maxExpressions)
    (crowded : maxExpressions - (earlier ++ before).length < (repetitions cursor).1) :
    Crowded earlier (groups before cursor) (groups (earlier ++ before) cursor) := by
  have refused :
      groups (earlier ++ before) cursor =
        .error (.tooMany cursor.skipBlanks.offset .expressions) := by
    rw [groups_eq, group_of_lt crowded]
  rw [List.length_append] at crowded
  rw [refused]
  cases alone : groups before cursor with
  | error error => exact Or.inr ⟨_, le_position_of_groups alone, rfl⟩
  | ok reading =>
      rcases reading with ⟨expressions, next⟩
      have longer : before.length + (repetitions cursor).1 ≤ expressions.length := by
        rw [groups_eq] at alone
        split at alone
        · cases alone
        next repeats expression afterGroup read =>
          rw [← (repeats_of_group read).1]
          split at alone
          · have kept := length_le_of_groups alone
            rwa [List.length_append, List.length_replicate] at kept
          · cases alone
            simp only [List.length_append, List.length_replicate, Nat.le_refl]
      have tooMany : ¬ earlier.length + expressions.length ≤ maxExpressions := by
        omega
      rw [Crowded, if_neg tooMany]
      exact ⟨_, (leads_of_groups alone).advances.offset_skipBlanks_le, rfl⟩

/-- Earlier expressions take room from the groups after them, and change nothing else. -/
theorem groups_earlier
    (earlier before : List Expression)
    (cursor : Cursor)
    (few : earlier.length + before.length ≤ maxExpressions) :
    Crowded earlier (groups before cursor) (groups (earlier ++ before) cursor) := by
  by_cases fits : (repetitions cursor).1 ≤ maxExpressions - (earlier ++ before).length
  · rw [List.length_append] at fits
    have same :
        group (maxExpressions - (earlier ++ before).length) cursor =
          group (maxExpressions - before.length) cursor := by
      rw [List.length_append]
      exact group_of_le (by omega) fits
    rw [groups_eq before, groups_eq (earlier ++ before), same]
    cases read : group (maxExpressions - before.length) cursor with
    | error error => exact Or.inl rfl
    | ok reading =>
        rcases reading with ⟨repeats, expression, afterGroup⟩
        have enough :
            earlier.length + (before ++ List.replicate repeats expression).length ≤
              maxExpressions := by
          rw [List.length_append, List.length_replicate, (repeats_of_group read).1]
          omega
        simp only [List.append_assoc]
        by_cases more : (afterGroup.literal [';']).1 = true
        · rw [if_pos more, if_pos more]
          exact groups_earlier earlier _ _ enough
        · rw [if_neg more, if_neg more, Crowded, if_pos enough]
  · exact crowded_of_lt few (Nat.not_le.mp fits)
termination_by cursor.rest.length
decreasing_by
  have groupShorter := length_rest_group_lt read
  have marked : afterGroup.literal [';'] = (true, (afterGroup.literal [';']).2) :=
    Prod.ext more rfl
  have markShorter := Cursor.length_rest_literal_lt (by simp) marked
  omega

/-- Earlier expressions take room from a whole text, and change nothing else. -/
theorem Crowded.conclude
    {earlier : List Expression}
    {alone after : Except NotationError (List Expression × Cursor)}
    (crowded : Crowded earlier alone after) :
    match conclude alone with
    | .ok expressions =>
      if earlier.length + expressions.length ≤ maxExpressions then
        conclude after = .ok (earlier ++ expressions)
      else
        ∃ place : Nat, conclude after = .error (.tooMany place .expressions)
    | .error error =>
      conclude after = .error error ∨
        ∃ place ≤ error.position, conclude after = .error (.tooMany place .expressions) := by
  rcases alone with error | ⟨expressions, next⟩
  · rcases crowded with rfl | ⟨place, bound, rfl⟩
    · exact Or.inl rfl
    · exact Or.inr ⟨place, bound, rfl⟩
  · rw [Crowded] at crowded
    by_cases finished : next.skipBlanks.rest = []
    · simp only [Notation.conclude, finished, if_true]
      split at crowded
      next few =>
        rw [if_pos few, crowded]
        simp only [finished, if_true]
      next many =>
        obtain ⟨place, -, refused⟩ := crowded
        rw [if_neg many]
        exact ⟨place, by rw [refused]⟩
    · simp only [Notation.conclude, finished, if_false]
      split at crowded
      next few =>
        left
        rw [crowded]
        simp only [finished, if_false]
      next many =>
        obtain ⟨place, bound, refused⟩ := crowded
        exact Or.inr ⟨place, bound, by rw [refused]⟩

/-! ## Both texts -/

/-- A refusal inside a group quotes no text. -/
theorem Moved.followedBy_eq
    {Places : Nat → Nat → Prop}
    {left right : NotationError}
    (moved : Moved Places left right)
    (more : String) :
    left.followedBy more = left := by
  cases moved with
  | missing => rfl
  | tooMany => rfl
  | invalidDie => rfl

theorem lowered_semicolon
    (first second : String) :
    lowered (first ++ ";" ++ second) = lowered first ++ ';' :: lowered second := by
  simp [lowered]

/-- Text behind other characters is concluded the same, places apart. -/
theorem conclude_shift
    (result : Except NotationError (List Expression × Cursor))
    (bytes : Nat) :
    conclude
        (match result with
          | .error error => .error (error.shift bytes)
          | .ok (expressions, next) => .ok (expressions, next.shift bytes)) =
      match conclude result with
      | .error error => .error (error.shift bytes)
      | .ok expressions => .ok expressions := by
  rcases result with error | ⟨expressions, next⟩
  · rfl
  · simp only [conclude, Cursor.skipBlanks_shift, Cursor.rest_shift]
    split
    · rfl
    · rfl

/-- What a semicolon and a second text add to a first text. -/
theorem parse_eq_followedBy
    (first second : String) :
    parse (first ++ ";" ++ second) =
      match parse first with
      | .error error =>
        .error (error.followedBy (";" ++ String.ofList (lowered second)))
      | .ok expressions =>
        conclude
          (groups expressions
            ((Cursor.ofText (lowered second)).shift (first.utf8ByteSize + 1))) := by
  have start :
      Cursor.ofText (lowered (first ++ ";" ++ second)) =
        (Cursor.ofText (lowered first)).followedBy (lowered second) := by
    rw [lowered_semicolon]
    rfl
  have ends : (Cursor.ofText (lowered first)).extent = first.utf8ByteSize := by
    rw [Cursor.extent, Cursor.rest_ofText, byteLength_lowered]
    exact Nat.zero_add _
  rw [parse_eq, start, groups_followedBy, parse_eq, ends]
  cases alone : groups [] (Cursor.ofText (lowered first)) with
  | error error =>
      have agree := lead_groups [] (Cursor.ofText (lowered first))
      rw [alone] at agree
      obtain ⟨_, _, moved⟩ := agree.of_error
      simp only [conclude, moved.followedBy_eq]
  | ok reading =>
      rcases reading with ⟨expressions, next⟩
      by_cases finished : next.skipBlanks.rest = []
      · simp only [conclude, finished, if_true]
      · have more : (next.skipBlanks.followedBy (lowered second)).rest ≠ [] := by
          simp [Cursor.followedBy]
        have found :
            String.ofList (next.skipBlanks.followedBy (lowered second)).rest =
              String.ofList next.skipBlanks.rest ++
                (";" ++ String.ofList (lowered second)) := by
          apply String.toList_injective
          simp [Cursor.followedBy]
        simp only [conclude, finished, if_false, Cursor.skipBlanks_followedBy, more, found]
        rfl

/-- A notation stands for no more expressions than it may. -/
theorem length_le_of_parse
    {text : String}
    {expressions : List Expression}
    (parsed : parse text = .ok expressions) :
    expressions.length ≤ maxExpressions := by
  rw [parse_eq] at parsed
  cases alone : groups [] (Cursor.ofText (lowered text)) with
  | error error =>
      rw [alone] at parsed
      cases parsed
  | ok reading =>
      rcases reading with ⟨result, next⟩
      have few := length_le_maxExpressions (Nat.zero_le _) alone
      rw [alone, conclude] at parsed
      split at parsed
      · cases parsed
        exact few
      · cases parsed

/--
The law of the semicolon.  A refusal of the first text is kept, and what it quotes goes on with the
second text.  Two texts that are read stand for their expressions one after another, if these are
not too many.  A refusal of the second text moves behind the first one, unless there is no room for
a group in front of it.  A refusal for too many expressions names them, and how many there may be.
-/
theorem parse_semicolon
    (first second : String) :
    (match parse first, parse second with
      | .error error, _ =>
        parse (first ++ ";" ++ second) =
          .error (error.followedBy (";" ++ String.ofList (lowered second)))
      | .ok expressions, .ok others =>
        if expressions.length + others.length ≤ 1000 then
          parse (first ++ ";" ++ second) = .ok (expressions ++ others)
        else
          ∃ place : Nat, parse (first ++ ";" ++ second) = .error (.tooMany place .expressions)
      | .ok _, .error error =>
        parse (first ++ ";" ++ second) = .error (error.shift (first.utf8ByteSize + 1)) ∨
          ∃ place ≤ error.position + (first.utf8ByteSize + 1),
            parse (first ++ ";" ++ second) = .error (.tooMany place .expressions)) ∧
      Quantity.expressions.describe = "expressions" ∧ Quantity.expressions.limit = 1000 := by
  refine ⟨?_, rfl, rfl⟩
  rw [parse_eq_followedBy]
  cases parsed : parse first with
  | error error => rfl
  | ok expressions =>
      have law :=
        groups_earlier expressions [] (Cursor.ofText (lowered second))
          (length_le_of_parse parsed)
      rw [List.append_nil] at law
      have whole := law.conclude
      simp only [groups_shift, conclude_shift]
      rw [← parse_eq] at whole
      cases parsedSecond : parse second with
      | ok others =>
          simp only [parsedSecond] at whole ⊢
          rw [maxExpressions] at whole
          split at whole
          next few => rw [if_pos few, whole]
          next many =>
            obtain ⟨place, refused⟩ := whole
            rw [if_neg many, refused]
            exact ⟨_, rfl⟩
      | error error =>
          simp only [parsedSecond] at whole ⊢
          rcases whole with same | ⟨place, bound, refused⟩
          · left
            rw [same]
          · right
            rw [refused]
            exact ⟨_, Nat.add_le_add_right bound _, rfl⟩

/-! ## Any number of texts -/

/-- Two notations with a semicolon between them stand for what both stand for, if there is room. -/
theorem parse_append_semicolon
    {first second : String}
    {expressions others : List Expression}
    (parsedFirst : parse first = .ok expressions)
    (parsedSecond : parse second = .ok others)
    (few : expressions.length + others.length ≤ maxExpressions) :
    parse (first ++ ";" ++ second) = .ok (expressions ++ others) := by
  have law :=
    groups_earlier expressions [] (Cursor.ofText (lowered second)) (length_le_of_parse parsedFirst)
  rw [List.append_nil] at law
  have whole := law.conclude
  rw [← parse_eq, parsedSecond] at whole
  simp only [few, if_true] at whole
  simp only [parse_eq_followedBy, parsedFirst, groups_shift, conclude_shift, whole]

/-- Notations with semicolons between them stand for what all of them stand for, in order. -/
theorem parse_intercalate
    {texts : List String}
    {readings : List (List Expression)}
    (parsed : List.Forall₂ (fun text expressions => parse text = .ok expressions) texts readings)
    (nonempty : texts ≠ [])
    (few : readings.flatten.length ≤ maxExpressions) :
    parse (String.intercalate ";" texts) = .ok readings.flatten := by
  induction parsed with
  | nil => exact absurd rfl nonempty
  | @cons text expressions texts readings first others inductionHypothesis =>
      rw [List.flatten_cons, List.length_append] at few
      cases others with
      | nil =>
          rw [String.intercalate_singleton, first]
          simp
      | @cons second _ texts _ _ _ =>
          have rest := inductionHypothesis (List.cons_ne_nil _ _) (by omega)
          rw [String.intercalate_cons_cons, List.flatten_cons]
          exact parse_append_semicolon first rest few

end Notation

end DiceCup
