import DiceCup.Notation.Parser
import DiceCup.Proofs.Notation.Reading

/-!
# The parser one stage at a time

Each stage of the parser is told by what its reads answer and where they leave the cursor, without
the pairs that the reads return.  Reasoning about two runs of a stage then rewrites the answers of
the one into those of the other.
-/

namespace DiceCup.Notation

open Text

/-- A die is a number that may be left out, the mark, the sides and a bonus that may be left out. -/
theorem die_eq
    (cursor : Cursor) :
    die cursor =
      let count := cursor.skipBlanks.number
      let mark := count.2.literal ['d']
      let sides := mark.2.number
      let bonus := sides.2.signed
      if mark.1 then
        match sides.1 with
        | none => .error (.missing mark.2.skipBlanks.offset .sides)
        | some value =>
          match Term.make (count.1.getD 1) value (bonus.1.getD 0) with
          | .error fault => .error (.invalidDie cursor.skipBlanks.offset fault)
          | .ok term => .ok (term, bonus.2)
      else
        .error (.missing count.2.skipBlanks.offset .dieMark) := by
  simp only [die]
  split
  next here missing =>
    rw [missing, Cursor.literal_missing missing]
    simp
  next afterMark found =>
    rw [found]
    split
    next here missing =>
      rw [missing, Cursor.number_missing missing]
      simp
    next value afterSides read =>
      rw [read]
      rfl

/-- A chain is a die, and after an ampersand a chain that starts one term further. -/
theorem chain_eq
    (position : Nat)
    (cursor : Cursor) :
    chain position cursor =
      if maxTerms < position then
        .error (.tooMany cursor.skipBlanks.offset .terms)
      else
        match die cursor with
        | .error error => .error error
        | .ok (term, afterDie) =>
          if (afterDie.literal ['&']).1 then
            match chain (position + 1) (afterDie.literal ['&']).2 with
            | .error error => .error error
            | .ok (right, next) => .ok (.combine (.single term) right, next)
          else
            .ok (.single term, (afterDie.literal ['&']).2) := by
  rw [chain]
  split
  · rfl
  · split
    next error refused => simp [refused]
    next term afterDie read =>
      rw [read]
      split
      next next alone => simp [alone]
      next afterMark joined =>
        dsimp only
        rw [joined]
        rfl

/-- A chain that is read is a die alone, or one that is joined with the chain behind it. -/
theorem chain_cases
    {position : Nat}
    {cursor next : Cursor}
    {expression : Expression}
    (read : chain position cursor = .ok (expression, next)) :
    ∃ (term : Term) (afterDie : Cursor),
      die cursor = .ok (term, afterDie) ∧
        ((afterDie.literal ['&']).1 = false ∧
            expression = .single term ∧ next = (afterDie.literal ['&']).2 ∨
          (afterDie.literal ['&']).1 = true ∧
            ∃ right : Expression,
              expression = .combine (.single term) right ∧
                chain (position + 1) (afterDie.literal ['&']).2 = .ok (right, next)) := by
  rw [chain_eq] at read
  split at read
  · cases read
  · split at read
    · cases read
    next term afterDie dieRead =>
      refine ⟨term, afterDie, dieRead, ?_⟩
      split at read
      next joined =>
        split at read
        · cases read
        next right last tail =>
          cases read
          exact Or.inr ⟨joined, right, rfl, tail⟩
      next alone =>
        cases read
        exact Or.inl ⟨Bool.eq_false_iff.mpr alone, rfl, rfl⟩

/-- A group is repeated by the number in front of an `x`, and once without them. -/
theorem repetitions_eq
    (cursor : Cursor) :
    repetitions cursor =
      match cursor.skipBlanks.number.1 with
      | none => (1, cursor.skipBlanks)
      | some count =>
        if (cursor.skipBlanks.number.2.literal ['x']).1 then
          (count.toNat, (cursor.skipBlanks.number.2.literal ['x']).2)
        else
          (1, cursor.skipBlanks) := by
  simp only [repetitions]
  split
  next here missing =>
    rw [missing, Cursor.number_missing missing, Cursor.skipBlanks_skipBlanks]
  next count afterCount read =>
    rw [read]
    split
    next afterMark found => simp [found]
    next here missing => simp [missing]

/-- A group has its repetitions looked at before its chain, and its dice after it. -/
theorem group_eq
    (room : Nat)
    (cursor : Cursor) :
    group room cursor =
      if room < (repetitions cursor).1 then
        .error (.tooMany cursor.skipBlanks.offset .expressions)
      else
        match chain 1 (repetitions cursor).2 with
        | .error error => .error error
        | .ok (expression, next) =>
          if maxDice < expression.diceCount then
            .error (.tooMany cursor.skipBlanks.offset .dice)
          else
            .ok ((repetitions cursor).1, expression, next) :=
  rfl

/-- Groups are a group, and after a semicolon groups that have less room. -/
theorem groups_eq
    (before : List Expression)
    (cursor : Cursor) :
    groups before cursor =
      match group (maxExpressions - before.length) cursor with
      | .error error => .error error
      | .ok (repeats, expression, afterGroup) =>
        if (afterGroup.literal [';']).1 then
          groups (before ++ List.replicate repeats expression) (afterGroup.literal [';']).2
        else
          .ok (before ++ List.replicate repeats expression, (afterGroup.literal [';']).2) := by
  rw [groups]
  split
  next error refused => simp [refused]
  next repeats expression afterGroup read =>
    rw [read]
    split
    next next last => simp [last]
    next afterMark more => simp [more]

/-- What each group keeps of the expressions read so far, all groups keep. -/
theorem groups_invariant
    (Holds : List Expression → Prop)
    (step :
      ∀ {before : List Expression} {cursor next : Cursor} {repeats : Nat}
        {expression : Expression},
        group (maxExpressions - before.length) cursor = .ok (repeats, expression, next) →
          Holds before → Holds (before ++ List.replicate repeats expression))
    {before result : List Expression}
    {cursor last : Cursor}
    (read : groups before cursor = .ok (result, last))
    (start : Holds before) :
    Holds result := by
  fun_induction groups before cursor with
  | case1 => cases read
  | case2 before cursor repeats expression afterGroup first expressions next =>
      injection read with same
      injection same with shape
      rw [← shape]
      exact step first start
  | case3 before cursor repeats expression afterGroup first expressions afterMark =>
      rename_i inductionHypothesis
      exact inductionHypothesis read (step first start)

/-- A capital letter is made small by moving it by 32 places, and nothing else is moved. -/
theorem toLower_cases
    (char : Char) :
    char.toLower = char ∨
      (65 ≤ char.toNat ∧ char.toNat ≤ 90) ∧ char.toLower.toNat = char.toNat + 32 := by
  delta Char.toLower
  split
  next capital =>
    have lower : 65 ≤ char.toNat := UInt32.le_iff_toNat_le.mp capital.1
    have upper : char.toNat ≤ 90 := UInt32.le_iff_toNat_le.mp capital.2
    have sum : (char.val + ('a'.val - 'A'.val)).toNat = char.toNat + 32 := by
      rw [UInt32.toNat_add]
      exact Nat.mod_eq_of_lt (Nat.lt_of_le_of_lt (Nat.add_le_add_right upper 32) (by decide))
    exact Or.inr ⟨⟨lower, upper⟩, sum⟩
  next => exact Or.inl rfl

/-- Making an ASCII letter small keeps the number of its bytes. -/
theorem utf8Size_toLower
    (char : Char) :
    char.toLower.utf8Size = char.utf8Size := by
  have ascii : ∀ other : Char, other.toNat ≤ 122 → other.utf8Size = 1 := by
    intro other small
    rw [Char.utf8Size_eq_one_iff, UInt32.le_iff_toNat_le]
    exact Nat.le_trans small (by decide)
  rcases toLower_cases char with same | ⟨⟨-, upper⟩, sum⟩
  · rw [same]
  · rw [ascii char (by omega), ascii char.toLower (by omega)]

/-- The characters of a notation as the parser sees them: ASCII letters are small. -/
def lowered
    (text : String) :
    List Char :=
  text.toList.map Char.toLower

theorem lowered_append
    (left right : String) :
    lowered (left ++ right) = lowered left ++ lowered right := by
  rw [lowered, String.toList_append, List.map_append, lowered, lowered]

/-- A character of the text as the parser sees it is one of the text, or small for a capital one. -/
theorem mem_lowered
    {char : Char}
    {text : String}
    (member : char ∈ lowered text) :
    char ∈ text.toList ∨
      ∃ capital ∈ text.toList,
        (65 ≤ capital.toNat ∧ capital.toNat ≤ 90) ∧ char.toNat = capital.toNat + 32 := by
  rw [lowered, List.mem_map] at member
  obtain ⟨original, inside, rfl⟩ := member
  rcases toLower_cases original with same | ⟨bounds, sum⟩
  · left
    rw [same]
    exact inside
  · right
    exact ⟨original, inside, bounds, sum⟩

/-- Small letters take as many bytes as the letters that they stand for. -/
theorem byteLength_lowered
    (text : String) :
    byteLength (lowered text) = text.utf8ByteSize := by
  rw [← byteLength_toList, lowered]
  induction text.toList with
  | nil => rfl
  | cons first rest inductionHypothesis =>
      rw [List.map_cons, byteLength_cons, byteLength_cons, inductionHypothesis,
        utf8Size_toLower]

/-- What a text stands for once its groups are read: nothing but blanks may come after them. -/
def conclude :
    Except NotationError (List Expression × Cursor) →
      Except NotationError (List Expression)
  | .error error => .error error
  | .ok (expressions, next) =>
    if next.skipBlanks.rest = [] then
      .ok expressions
    else
      .error (.trailing next.skipBlanks.offset (String.ofList next.skipBlanks.rest))

theorem parse_eq
    (text : String) :
    parse text = conclude (groups [] (Cursor.ofText (lowered text))) := by
  rw [parse, read, lowered]
  split
  next error refused => rw [refused, conclude]
  next expressions next read =>
    rw [read, conclude]
    cases shape : next.skipBlanks.rest with
    | nil => simp only [Cursor.exhausted, shape, List.isEmpty_nil, if_true]
    | cons first rest =>
        simp only [Cursor.exhausted, shape, List.isEmpty_cons, reduceCtorEq, if_false]

/-- A text is refused in one of its groups, or because it goes on behind the last one. -/
theorem refused_of_parse
    {text : String}
    {error : NotationError}
    (refused : parse text = .error error) :
    groups [] (Cursor.ofText (lowered text)) = .error error ∨
      ∃ (expressions : List Expression) (next : Cursor),
        groups [] (Cursor.ofText (lowered text)) = .ok (expressions, next) ∧
          next.skipBlanks.rest ≠ [] ∧
          error = .trailing next.skipBlanks.offset (String.ofList next.skipBlanks.rest) := by
  rw [parse_eq] at refused
  cases run : groups [] (Cursor.ofText (lowered text)) with
  | error other =>
      rw [run, conclude, Except.error.injEq] at refused
      exact Or.inl (congrArg Except.error refused)
  | ok reading =>
      rcases reading with ⟨expressions, next⟩
      rw [run, conclude] at refused
      split at refused
      · cases refused
      next unfinished =>
        cases refused
        exact Or.inr ⟨expressions, next, rfl, unfinished, rfl⟩

end DiceCup.Notation
