import DiceCup.Proofs.Notation.Completeness

/-!
# Reading back what was written

Expressions are written with their terms from left to right, and ` ; ` between two expressions.  The
tokens of that text are derived by the grammar, as a group of its own for each expression, so the
parser reads the expressions back.  What does not show in the text is how the terms of an expression
are nested: what is read back leans to the right.

The text is cut into tokens where a mark stands (`tokens_digits_append`, `tokens_between`), and
chains are put together by the grammar alone (`dice_append`).
-/

namespace DiceCup

open Text Notation Notation.Grammar

/-! ## Nesting -/

namespace Expression

/-- The expression with the same terms that leans to the right. -/
def rightLeaning
    (expression : Expression) :
    Expression :=
  .ofTerms (expression.terms.head expression.terms_ne_nil) expression.terms.tail

@[simp]
theorem terms_rightLeaning
    (expression : Expression) :
    expression.rightLeaning.terms = expression.terms := by
  rw [rightLeaning, terms_ofTerms, List.cons_head_tail]

/-- An expression that leans to the right already stays as it is. -/
theorem rightLeaning_ofTerms
    (first : Term)
    (others : List Term) :
    (ofTerms first others).rightLeaning = ofTerms first others := by
  simp only [rightLeaning, terms_ofTerms, List.head_cons, List.tail_cons]

/-- The written form of expressions one after another. -/
def renderAll
    (expressions : List Expression) :
    String :=
  " ; ".intercalate (expressions.map render)

end Expression

/-! ## Terms as they are written -/

namespace Term

/-- The numbers that a term is written with. -/
def written
    (term : Term) :
    WrittenTerm where
  count := UInt32.ofNatLT term.count (Nat.lt_of_le_of_lt term.count_le (by decide))
  sides := UInt32.ofNatLT term.sides term.sides_lt
  bonus := Int32.ofIntLE term.bonus term.le_bonus term.bonus_le

/-- What a term is written with is within the limits, and stands for the term. -/
theorem written_valid
    (term : Term) :
    ∃ valid : term.written.Valid, term = term.written.term valid :=
  WrittenTerm.term_of_make term.make_self

@[simp]
theorem toNat_count_written
    (term : Term) :
    term.written.count.toNat = term.count := by
  simp [written]

@[simp]
theorem toInt_bonus_written
    (term : Term) :
    term.written.bonus.toInt = term.bonus := by
  simp [written]

end Term

/-- The group that an expression is written as. -/
def Expression.written
    (expression : Expression) :
    WrittenGroup where
  repeats := 1
  first := (expression.terms.head expression.terms_ne_nil).written
  others := expression.terms.tail.map Term.written

theorem Expression.terms_written
    (expression : Expression) :
    expression.written.terms = expression.terms.map Term.written := by
  show List.map Term.written (_ :: _) = _
  rw [List.cons_head_tail]

/-! ## Texts and their tokens -/

namespace Notation

/-- A digit is not an ASCII letter. -/
theorem toLower_of_isDigit
    {char : Char}
    (digit : char.isDigit = true) :
    char.toLower = char := by
  have bound : char.toNat ≤ '9'.toNat := (Char.isDigit_iff_toNat.mp digit).2
  rcases toLower_cases char with same | ⟨⟨later, -⟩, -⟩
  · exact same
  · exact absurd (Nat.le_trans later bound) (by decide)

/-- A run of digits holds no letters. -/
theorem map_toLower_of_digits
    {run : List Char}
    (digits : run.all Char.isDigit = true) :
    run.map Char.toLower = run := by
  have small : ∀ char ∈ run, char.toLower = id char := by
    intro char member
    exact toLower_of_isDigit (List.all_eq_true.mp digits char member)
  rw [List.map_congr_left small, List.map_id]

/-- A number is written without letters. -/
theorem lowered_toString
    (value : Nat) :
    lowered (toString value) = Nat.toDigits 10 value := by
  obtain ⟨-, digits, -⟩ := natural?_eq_some_iff.mp (natural?_toDigits value)
  rw [lowered, Nat.toString_eq_repr, Nat.toList_repr, map_toLower_of_digits digits]

/-- A number in front of something else is a token. -/
theorem tokens_digits_append
    (value : Nat)
    (rest : List Char)
    (stops : ∀ next ∈ rest.head?, next.isDigit = false) :
    tokens (Nat.toDigits 10 value ++ rest) = .digits (Nat.toDigits 10 value) :: tokens rest := by
  obtain ⟨nonempty, digits, -⟩ := natural?_eq_some_iff.mp (natural?_toDigits value)
  have apart : Apart (Nat.toDigits 10 value) rest := by
    intro last _ _
    exact stops
  rw [tokens_append apart, tokens_digits nonempty digits, List.singleton_append]

/-- Texts with a mark between them have its token between their tokens. -/
theorem tokens_between
    {mark : Char}
    {separator : String}
    (isMark : Cursor.IsMark mark)
    (shape : lowered separator = [' ', mark, ' '])
    (left right : String) :
    tokens (lowered (left ++ separator ++ right)) =
      tokens (lowered left) ++ .mark mark :: tokens (lowered right) := by
  have space : isBlank ' ' = true := by decide
  have apart : Apart (lowered left) (' ' :: mark :: ' ' :: lowered right) := by
    intro last _ _ next member
    cases member
    decide
  calc
    tokens (lowered (left ++ separator ++ right)) =
        tokens (lowered left ++ ' ' :: mark :: ' ' :: lowered right) := by
      rw [lowered_append, lowered_append, shape, List.append_assoc]
      rfl
    _ = tokens (lowered left) ++ .mark mark :: tokens (lowered right) := by
      rw [tokens_append apart, tokens_blank space, tokens_mark isMark.1 isMark.2,
        tokens_blank space]

/-! ## Derivations of what is written -/

/-- A number that fits into a word is written as that word. -/
theorem uint_toDigits
    {value : Nat}
    (fits : value < UInt32.size) :
    Uint [.digits (Nat.toDigits 10 value)] (UInt32.ofNatLT value fits) := by
  apply Uint.digits
  rw [UInt32.toNat_ofNatLT, natural?_toDigits]

/-- A sign and a number are two tokens. -/
theorem tokens_signed
    {mark : Char}
    {sign : String}
    (isMark : Cursor.IsMark mark)
    (shape : lowered sign = [mark])
    (value : Nat) :
    tokens (lowered (sign ++ toString value)) =
      [.mark mark, .digits (Nat.toDigits 10 value)] := by
  have number := tokens_digits_append value [] (by simp)
  rw [List.append_nil, tokens_nil] at number
  rw [lowered_append, shape, lowered_toString, List.singleton_append,
    tokens_mark isMark.1 isMark.2, number]

/-- The three ways to write a number that is added. -/
theorem signedSuffix_cases
    (value : Int) :
    (value = 0 ∧ signedSuffix value = "") ∨
      (∃ magnitude : Nat,
        value = magnitude ∧ signedSuffix value = "+" ++ toString magnitude) ∨
      ∃ magnitude : Nat,
        value = -(magnitude : Int) ∧ signedSuffix value = "-" ++ toString magnitude := by
  rw [signedSuffix]
  split
  next zero => exact Or.inl ⟨zero, rfl⟩
  next nonzero =>
    right
    cases value with
    | ofNat magnitude =>
        have positive : 0 < (magnitude : Int) := by
          have different : (magnitude : Int) ≠ 0 := nonzero
          omega
        rw [Int.ofNat_eq_natCast, if_pos positive]
        exact Or.inl ⟨magnitude, rfl, rfl⟩
    | negSucc before =>
        exact Or.inr ⟨before + 1, rfl, rfl⟩

/-- A bonus is written with its sign, and zero is left out. -/
theorem optional_signedSuffix
    (bonus : Int32) :
    Optional Bonus 0 (tokens (lowered (signedSuffix bonus.toInt))) bonus := by
  have lower : -2147483648 ≤ bonus.toInt := bonus.minValue_le_toInt
  have upper : bonus.toInt ≤ 2147483647 := bonus.toInt_le
  have word :
      ∀ magnitude : Nat,
        bonus.toInt = magnitude ∨ bonus.toInt = -(magnitude : Int) →
          magnitude < UInt32.size := by
    intro magnitude value
    rw [UInt32.size]
    omega
  rcases signedSuffix_cases bonus.toInt with
    ⟨zero, text⟩ | ⟨magnitude, value, text⟩ | ⟨magnitude, value, text⟩
  · have same : bonus = 0 := Int32.toInt.inj zero
    have nothing : tokens (lowered "") = [] := tokens_nil
    rw [text, nothing, same]
    exact .absent
  · have fits : magnitude < UInt32.size := word magnitude (Or.inl value)
    rw [text, tokens_signed (by decide) rfl]
    apply Optional.present
    apply Bonus.plus (uint_toDigits fits)
    rw [UInt32.toNat_ofNatLT, value]
  · have fits : magnitude < UInt32.size := word magnitude (Or.inr value)
    rw [text, tokens_signed (by decide) rfl]
    apply Optional.present
    apply Bonus.minus (uint_toDigits fits)
    rw [UInt32.toNat_ofNatLT, value]

/-- What is written behind the sides of a die does not start with a digit. -/
theorem isDigit_head_signedSuffix
    (value : Int) :
    ∀ next ∈ (lowered (signedSuffix value)).head?, next.isDigit = false := by
  intro next member
  rcases signedSuffix_cases value with ⟨-, text⟩ | ⟨magnitude, -, text⟩ | ⟨magnitude, -, text⟩
  · rw [text] at member
    cases member
  · rw [text, lowered_append] at member
    cases member
    rfl
  · rw [text, lowered_append] at member
    cases member
    rfl

/-- A term is written as a chain of one die. -/
theorem dice_render_term
    (term : Term) :
    Dice (tokens (lowered term.render)) term.written [] := by
  have count := uint_toDigits (Nat.lt_of_le_of_lt term.count_le (by decide))
  have sides := uint_toDigits term.sides_lt
  have bonus := optional_signedSuffix term.written.bonus
  rw [Term.toInt_bonus_written] at bonus
  have text :
      lowered term.render =
        Nat.toDigits 10 term.count ++
          'd' :: (Nat.toDigits 10 term.sides ++ lowered (signedSuffix term.bonus)) := by
    rw [Term.render, lowered_append, lowered_append, lowered_append, lowered_toString,
      lowered_toString, List.append_assoc, List.append_assoc]
    rfl
  have atMark :
      ∀ next ∈ ('d' :: (Nat.toDigits 10 term.sides ++
        lowered (signedSuffix term.bonus))).head?, next.isDigit = false := by
    intro next member
    cases member
    rfl
  rw [text, tokens_digits_append _ _ atMark, tokens_mark (by decide) (by decide),
    tokens_digits_append _ _ (isDigit_head_signedSuffix term.bonus)]
  exact .last (.die (.present count) sides) bonus

/-- A chain goes on with another chain behind an ampersand. -/
theorem dice_append
    {used more : List Token}
    {first second : WrittenTerm}
    {others later : List WrittenTerm}
    (written : Dice used first others)
    (moreWritten : Dice more second later) :
    Dice (used ++ .mark '&' :: more) first (others ++ second :: later) := by
  induction written with
  | last die bonus => exact .joined die bonus moreWritten
  | joined die bonus chain inductionHypothesis =>
      rw [List.append_assoc, List.cons_append, List.cons_append]
      exact .joined die bonus inductionHypothesis

/-- An expression is written as the chain of its terms, whatever its nesting. -/
theorem group_render
    (expression : Expression) :
    Group (tokens (lowered expression.render)) expression.written := by
  apply Group.once
  induction expression with
  | single term => exact dice_render_term term
  | combine left right leftHypothesis rightHypothesis =>
      rw [Expression.render, tokens_between (by decide) rfl]
      have joined := dice_append leftHypothesis rightHypothesis
      rw [← List.map_cons, List.cons_head_tail, ← List.map_append] at joined
      simp only [Expression.terms_combine, List.head_append_of_ne_nil left.terms_ne_nil,
        List.tail_append_of_ne_nil left.terms_ne_nil]
      exact joined

/-- Expressions are written as groups that are not repeated. -/
theorem roll_renderAll
    (first : Expression)
    (others : List Expression) :
    Roll (tokens (lowered (Expression.renderAll (first :: others))))
      ((first :: others).map Expression.written) := by
  induction others generalizing first with
  | nil =>
      rw [Expression.renderAll, List.map_singleton, String.intercalate_singleton]
      exact .last (group_render first)
  | cons second others inductionHypothesis =>
      rw [Expression.renderAll, List.map_cons, List.map_cons, String.intercalate_cons_cons,
        tokens_between (by decide) rfl]
      exact .more (group_render first) (inductionHypothesis second)

/-! ## Limits and meaning of what is written -/

/-- The limits within which expressions are read back. -/
structure Readable
    (expressions : List Expression) :
    Prop where
  length_le : expressions.length ≤ 1000
  terms_le : ∀ expression ∈ expressions, expression.terms.length ≤ 100
  dice_le : ∀ expression ∈ expressions, expression.diceCount ≤ 10000

theorem countAll_written
    (terms : List Term) :
    WrittenTerm.countAll (terms.map Term.written) = Term.countAll terms := by
  induction terms with
  | nil => rfl
  | cons term terms inductionHypothesis =>
      rw [List.map_cons, WrittenTerm.countAll, inductionHypothesis, Term.toNat_count_written,
        Term.countAll_cons]

theorem valid_of_mem_written
    {terms : List Term}
    {written : WrittenTerm}
    (member : written ∈ terms.map Term.written) :
    written.Valid := by
  obtain ⟨term, -, rfl⟩ := List.mem_map.mp member
  obtain ⟨valid, -⟩ := term.written_valid
  exact valid

theorem valid_written_iff
    {expression : Expression} :
    expression.written.Valid ↔
      expression.terms.length ≤ 100 ∧ expression.diceCount ≤ 10000 := by
  have length : expression.written.terms.length = expression.terms.length := by
    rw [Expression.terms_written, List.length_map]
  have dice : WrittenTerm.countAll expression.written.terms = expression.diceCount := by
    rw [Expression.terms_written, countAll_written, Expression.diceCount]
  constructor
  · intro valid
    exact ⟨length ▸ valid.length_le, dice ▸ valid.dice_le⟩
  · rintro ⟨fewTerms, fewDice⟩
    exact {
      terms := by
        intro written member
        rw [Expression.terms_written] at member
        exact valid_of_mem_written member
      length_le := by
        rw [length]
        exact fewTerms
      dice_le := by
        rw [dice]
        exact fewDice }

theorem repeatsAll_written
    (expressions : List Expression) :
    repeatsAll (expressions.map Expression.written) = expressions.length := by
  induction expressions with
  | nil => rfl
  | cons expression expressions inductionHypothesis =>
      rw [List.map_cons, repeatsAll, inductionHypothesis, List.length_cons, Nat.add_comm]
      rfl

theorem withinLimits_written_iff
    {expressions : List Expression} :
    WithinLimits (expressions.map Expression.written) ↔ Readable expressions := by
  constructor
  · intro within
    have valid : ∀ expression ∈ expressions, expression.written.Valid := by
      intro expression member
      exact within.valid expression.written (List.mem_map_of_mem member)
    exact {
      length_le := by
        rw [← repeatsAll_written]
        exact within.repeats_le
      terms_le := by
        intro expression member
        exact (valid_written_iff.mp (valid expression member)).1
      dice_le := by
        intro expression member
        exact (valid_written_iff.mp (valid expression member)).2 }
  · intro readable
    exact {
      valid := by
        intro written member
        obtain ⟨expression, among, rfl⟩ := List.mem_map.mp member
        exact valid_written_iff.mpr
          ⟨readable.terms_le expression among, readable.dice_le expression among⟩
      repeats_le := by
        rw [repeatsAll_written]
        exact readable.length_le }

/-- The terms that are written are meant. -/
theorem pmap_term_written
    (terms : List Term)
    (valid : ∀ written ∈ terms.map Term.written, written.Valid) :
    (terms.map Term.written).pmap WrittenTerm.term valid = terms := by
  induction terms with
  | nil => rfl
  | cons term terms inductionHypothesis =>
      obtain ⟨_, same⟩ := term.written_valid
      simp only [List.map_cons, List.pmap_cons, inductionHypothesis, ← same]

/-- What an expression is written as stands for the expression, which leans to the right then. -/
theorem expressions_written
    (expression : Expression)
    (valid : expression.written.Valid) :
    expression.written.expressions valid = [expression.rightLeaning] := by
  obtain ⟨_, same⟩ := (expression.terms.head expression.terms_ne_nil).written_valid
  have meant : expression.written.expression valid = expression.rightLeaning :=
    congr (congrArg Expression.ofTerms same.symm) (pmap_term_written expression.terms.tail _)
  rw [WrittenGroup.expressions, meant]
  rfl

theorem meaning_written
    (expressions : List Expression)
    (valid : ∀ group ∈ expressions.map Expression.written, group.Valid) :
    meaning (expressions.map Expression.written) valid =
      expressions.map Expression.rightLeaning := by
  induction expressions with
  | nil => rfl
  | cons expression expressions inductionHypothesis =>
      have rest := inductionHypothesis fun group member =>
        valid group (List.mem_cons_of_mem _ member)
      rw [meaning] at rest ⊢
      simp only [List.map_cons, List.pmap_cons, List.flatten_cons, expressions_written, rest,
        List.singleton_append]

/-- Only too much of something keeps expressions from being read back. -/
theorem tooMany_of_breaksLimit
    {expressions : List Expression}
    {error : NotationError}
    (breaks : BreaksLimit (expressions.map Expression.written) error) :
    ∃ (place : Nat) (quantity : Quantity), error = .tooMany place quantity := by
  rcases breaks with ⟨group, member, breaks⟩ | ⟨⟨place, shape⟩, -⟩
  · cases error with
    | missing position wanted => exact breaks.elim
    | trailing position found => exact breaks.elim
    | tooMany position quantity => exact ⟨position, quantity, rfl⟩
    | invalidDie position fault =>
        obtain ⟨expression, -, rfl⟩ := List.mem_map.mp member
        obtain ⟨written, among, invalid, -⟩ := breaks
        rw [Expression.terms_written] at among
        exact (invalid (valid_of_mem_written among)).elim
  · exact ⟨place, .expressions, shape⟩

/-- What a notation stands for is within the limits and leans to the right. -/
theorem readable_of_parse
    {text : String}
    {expressions : List Expression}
    (parsed : parse text = .ok expressions) :
    Readable expressions ∧ expressions.map Expression.rightLeaning = expressions := by
  obtain ⟨written, rollWritten⟩ := roll_of_parse parsed
  rcases parse_of_roll rollWritten with ⟨within, means⟩ | ⟨error, refused, -⟩
  · rw [parsed] at means
    injection means with same
    rw [same]
    constructor
    · exact {
        length_le := by
          rw [length_meaning]
          exact within.repeats_le
        terms_le := by
          intro expression member
          obtain ⟨group, valid, rfl⟩ := exists_group_of_mem_meaning member
          rw [WrittenGroup.terms_expression, List.length_pmap]
          exact valid.length_le
        dice_le := by
          intro expression member
          obtain ⟨group, valid, rfl⟩ := exists_group_of_mem_meaning member
          rw [Expression.diceCount, WrittenGroup.terms_expression, WrittenTerm.countAll_pmap]
          exact valid.dice_le }
    · have leans : ∀ expression ∈ meaning written within.valid,
          expression.rightLeaning = id expression := by
        intro expression member
        obtain ⟨group, valid, rfl⟩ := exists_group_of_mem_meaning member
        exact Expression.rightLeaning_ofTerms _ _
      rw [List.map_congr_left leans, List.map_id]
  · rw [parsed] at refused
    cases refused

/-- One expression is read back from its written form exactly if it is within the limits. -/
theorem parse_render_cases
    (expression : Expression) :
    (Readable [expression] ∧ parse expression.render = .ok [expression.rightLeaning]) ∨
      (¬ Readable [expression] ∧ ∃ error : NotationError, parse expression.render = .error error) := by
  rcases parse_of_roll (.last (group_render expression)) with
    ⟨within, means⟩ | ⟨error, refused, breaks⟩
  · left
    refine ⟨withinLimits_written_iff.mp within, ?_⟩
    rw [means]
    exact congrArg Except.ok (meaning_written [expression] within.valid)
  · right
    refine ⟨fun readable => ?_, error, refused⟩
    exact not_breaksLimit_of_within (withinLimits_written_iff.mpr readable) breaks

/--
Expressions within the limits are read back from their written form, leaning to the right, and
others are refused for too much of something.  What a notation stands for is read back as it is.
-/
theorem parse_renderAll
    (first : Expression)
    (others : List Expression) :
    (Readable (first :: others) →
        parse (Expression.renderAll (first :: others)) =
          .ok ((first :: others).map Expression.rightLeaning)) ∧
      (¬ Readable (first :: others) →
        ∃ (place : Nat) (quantity : Quantity),
          parse (Expression.renderAll (first :: others)) = .error (.tooMany place quantity)) ∧
      ∀ text : String,
        parse text = .ok (first :: others) →
          parse (Expression.renderAll (first :: others)) = .ok (first :: others) := by
  have readBack :
      Readable (first :: others) →
        parse (Expression.renderAll (first :: others)) =
          .ok ((first :: others).map Expression.rightLeaning) := by
    intro readable
    have within := withinLimits_written_iff.mpr readable
    rcases parse_of_roll (roll_renderAll first others) with
      ⟨_, means⟩ | ⟨error, -, breaks⟩
    · rw [means, meaning_written]
    · exact (not_breaksLimit_of_within within breaks).elim
  refine ⟨readBack, ?_, ?_⟩
  · intro outside
    rcases parse_of_roll (roll_renderAll first others) with
      ⟨within, -⟩ | ⟨error, refused, breaks⟩
    · exact (outside (withinLimits_written_iff.mp within)).elim
    · obtain ⟨place, quantity, rfl⟩ := tooMany_of_breaksLimit breaks
      exact ⟨place, quantity, refused⟩
  · intro text parsed
    obtain ⟨readable, leans⟩ := readable_of_parse parsed
    rw [readBack readable, leans]

/-- One die with two sides and the least bonus there is. -/
def lowestTerm :
    Term :=
  WrittenTerm.term ⟨1, 2, Int32.minValue⟩ ⟨by decide, by decide, by decide⟩

/-- A pair on the left is read back on the right, alone but not a thousand and one times. -/
theorem parse_renderAll_left_pair :
    Readable [.combine (.combine (.single lowestTerm) (.single lowestTerm)) (.single lowestTerm)] ∧
      parse (Expression.renderAll
          [.combine (.combine (.single lowestTerm) (.single lowestTerm)) (.single lowestTerm)]) =
        .ok [.combine (.single lowestTerm)
          (.combine (.single lowestTerm) (.single lowestTerm))] ∧
      ¬ Readable (List.replicate 1001 (.single lowestTerm)) ∧
      (∃ (place : Nat) (quantity : Quantity),
        parse (Expression.renderAll (List.replicate 1001 (.single lowestTerm))) =
          .error (.tooMany place quantity)) ∧
      parse (Expression.renderAll [.combine (.single lowestTerm)
          (.combine (.single lowestTerm) (.single lowestTerm))]) =
        .ok [.combine (.single lowestTerm)
          (.combine (.single lowestTerm) (.single lowestTerm))] := by
  have readable : Readable
      [.combine (.combine (.single lowestTerm) (.single lowestTerm)) (.single lowestTerm)] :=
    ⟨by decide, by decide, by decide⟩
  have readBack := (parse_renderAll _ []).1 readable
  have outside : ¬ Readable (List.replicate 1001 (.single lowestTerm)) := by
    intro many
    have length := many.length_le
    rw [List.length_replicate] at length
    exact absurd length (by decide)
  exact ⟨readable, readBack, outside, (parse_renderAll _ (List.replicate 1000 _)).2.1 outside,
    (parse_renderAll _ []).2.2 _ readBack⟩

end Notation

end DiceCup
