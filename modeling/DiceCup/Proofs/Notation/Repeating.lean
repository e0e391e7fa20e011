import DiceCup.Proofs.Notation.Blame
import DiceCup.Proofs.Text.Listing
import DiceCup.Random.Tape
import DiceCup.Roll.Throw

/-!
# Repeated notations

A number and an `x` in front of a notation stand for so many copies of what the notation stands for.
The notation has to be one group that is not repeated itself; then `parse_multiplied` says what the
number makes of it, and that writing the copies out with semicolons between them is the same, also
when the dice are rolled.

The proof compares two runs of the parser, one on the notation and one behind the number.  They have
the same tokens in front of them, although the blanks and the places differ, so they read the same
chain (`chain_of_tokens_eq`).  What remains is to see that the number is taken for the repetitions
and never for the dice of the chain (`repetitions_of_uint`, `repetitions_of_unmarked`).
-/

namespace DiceCup

open Text

namespace Notation

open Grammar

/-! ## Marks that a text does not hold -/

/-- An `x` is written small or as a capital letter. -/
theorem mem_lowered_x
    {text : String}
    (member : 'x' ∈ lowered text) :
    'x' ∈ text.toList ∨ 'X' ∈ text.toList := by
  rcases mem_lowered member with small | ⟨capital, inside, -, sum⟩
  · exact Or.inl small
  · have code : capital.toNat = ('X' : Char).toNat := Nat.add_right_cancel sum.symm
    rw [← Char.toNat_inj.mp code]
    exact Or.inr inside

/-- A text without a semicolon is one group, and nothing but blanks may come after it. -/
theorem parse_eq_of_alone
    {text : String}
    (alone : ';' ∉ text.toList) :
    parse text =
      match group maxExpressions (Cursor.ofText (lowered text)) with
      | .error error => .error error
      | .ok (repeats, expression, next) =>
        conclude (.ok (List.replicate repeats expression, next)) := by
  rw [parse_eq, groups_eq, List.length_nil, Nat.sub_zero]
  cases read : group maxExpressions (Cursor.ofText (lowered text)) with
  | error error => rfl
  | ok reading =>
      rcases reading with ⟨repeats, expression, next⟩
      have last : (next.literal [';']).1 ≠ true := by
        intro found
        have inside := (leads_of_group read).mem_rest (mem_rest_of_literal found)
        exact alone (mem_lowered_semicolon.mp inside)
      have missing : next.literal [';'] = (false, (next.literal [';']).2) :=
        Prod.ext (Bool.eq_false_iff.mpr last) rfl
      simp only [if_neg last, Cursor.literal_missing missing, conclude,
        Cursor.skipBlanks_skipBlanks, List.nil_append]

/-- Without an `x` a group is not repeated, and no number is taken from its dice. -/
theorem repetitions_of_unmarked
    {cursor : Cursor}
    (unmarked : 'x' ∉ cursor.rest) :
    repetitions cursor = (1, cursor.skipBlanks) := by
  rw [repetitions_eq]
  split
  · rfl
  · have missing : (cursor.skipBlanks.number.2.literal ['x']).1 ≠ true := by
      intro found
      have leads : cursor.Leads cursor.skipBlanks.number.2 :=
        (Cursor.Leads.skipBlanks cursor).trans (Cursor.Leads.number _)
      exact unmarked (leads.mem_rest (mem_rest_of_literal found))
    rw [if_neg missing]

/-- A notation of one group that is not repeated stands for the expression of its chain. -/
theorem exists_chain_of_parse
    {text : String}
    {expressions : List Expression}
    (alone : ';' ∉ text.toList)
    (unmarked : 'x' ∉ lowered text)
    (parsed : parse text = .ok expressions) :
    ∃ (expression : Expression) (next : Cursor),
      expressions = [expression] ∧
        chain 1 (Cursor.ofText (lowered text)).skipBlanks = .ok (expression, next) ∧
        expression.diceCount ≤ maxDice ∧
        tokens next.rest = [] := by
  rw [parse_eq_of_alone alone, group_eq, repetitions_of_unmarked unmarked] at parsed
  have once : ¬ maxExpressions < 1 := by decide
  simp only [if_neg once] at parsed
  cases read : chain 1 (Cursor.ofText (lowered text)).skipBlanks with
  | error error =>
      rw [read] at parsed
      cases parsed
  | ok reading =>
      rcases reading with ⟨expression, next⟩
      simp only [read] at parsed
      by_cases many : maxDice < expression.diceCount
      · rw [if_pos many] at parsed
        cases parsed
      · rw [if_neg many] at parsed
        by_cases finished : next.skipBlanks.rest = []
        · simp only [conclude, if_pos finished, Except.ok.injEq] at parsed
          exact ⟨expression, next, parsed.symm, rfl, Nat.le_of_not_lt many,
            Cursor.rest_skipBlanks_eq_nil_iff.mp finished⟩
        · simp only [conclude, if_neg finished] at parsed
          cases parsed

/-! ## The same tokens at different places -/

/-- Every read keeps two cursors in front of the same tokens, wherever they are. -/
theorem tokens_simulation :
    Simulation (fun left right => tokens left.rest = tokens right.rest) (fun _ _ => True) where
  place _ := trivial
  skipBlanks same := by
    rw [Cursor.tokens_skipBlanks, Cursor.tokens_skipBlanks, same]
  number same := Cursor.number_of_tokens_eq same
  literal _ member same := Cursor.literal_of_tokens_eq (isMark_of_mem_groupMarks member) same

/-- The same chain is read from the same tokens. -/
theorem chain_of_tokens_eq
    {position : Nat}
    {left right next : Cursor}
    {expression : Expression}
    (same : tokens left.rest = tokens right.rest)
    (read : chain position left = .ok (expression, next)) :
    ∃ last : Cursor,
      chain position right = .ok (expression, last) ∧ tokens next.rest = tokens last.rest := by
  have agree := tokens_simulation.chain same position
  rw [read] at agree
  exact agree.of_ok

/-! ## Blanks -/

theorem allBlank_lowered
    {text : String}
    (blank : AllBlank text.toList) :
    AllBlank (lowered text) := by
  intro char member
  rw [lowered, List.mem_map] at member
  obtain ⟨original, inside, rfl⟩ := member
  rw [(isBlank_isDigit_toLower original).1]
  exact blank original inside

/-- Blanks in front of a text hold no token. -/
theorem tokens_blanks_append
    {blanks : List Char}
    (blank : AllBlank blanks)
    (text : List Char) :
    tokens (blanks ++ text) = tokens text := by
  rw [← tokens_dropBlanks, dropBlanks_append blank, tokens_dropBlanks]

/-- A run of digits does not go on in blanks. -/
theorem apart_blanks_append
    {blanks text : List Char}
    (blank : AllBlank blanks)
    (stops : ∀ next ∈ text.head?, next.isDigit = false)
    (run : List Char) :
    Apart run (blanks ++ text) := by
  intro last _ _ next member
  cases blanks with
  | nil => exact stops next member
  | cons first others =>
      cases member
      have blankNext : isBlank next = true := blank next List.mem_cons_self
      cases digit : next.isDigit with
      | false => rfl
      | true =>
          rw [isBlank_of_isDigit digit] at blankNext
          cases blankNext

/-! ## Numbers in front of a notation -/

/-- A number and an `x`, with any blanks around them, that say how often a notation is repeated. -/
structure Multiplier where
  times : UInt32
  front : String
  number : String
  between : String
  mark : Char
  behind : String
  numeral : natural? number.toList = some times.toNat
  isMark : mark = 'x' ∨ mark = 'X'
  blankFront : AllBlank front.toList
  blankBetween : AllBlank between.toList
  blankBehind : AllBlank behind.toList

namespace Multiplier

/-- How the multiplier is written. -/
def text
    (multiplier : Multiplier) :
    String :=
  multiplier.front ++ multiplier.number ++ multiplier.between ++
    String.singleton multiplier.mark ++ multiplier.behind

theorem lowered_text_append
    (multiplier : Multiplier)
    (dice : String) :
    lowered (multiplier.text ++ dice) =
      lowered multiplier.front ++
        (multiplier.number.toList ++
          (lowered multiplier.between ++
            'x' :: (lowered multiplier.behind ++ lowered dice))) := by
  obtain ⟨-, digits, -⟩ := natural?_eq_some_iff.mp multiplier.numeral
  have number : lowered multiplier.number = multiplier.number.toList :=
    map_toLower_of_digits digits
  have mark : lowered (String.singleton multiplier.mark) = ['x'] := by
    rcases multiplier.isMark with small | capital
    · rw [small]
      decide
    · rw [capital]
      decide
  simp only [text, lowered_append, number, mark, List.append_assoc, List.cons_append,
    List.nil_append]

/-- A multiplier holds no semicolon. -/
theorem alone_text_append
    (multiplier : Multiplier)
    {dice : String}
    (alone : ';' ∉ dice.toList) :
    ';' ∉ (multiplier.text ++ dice).toList := by
  obtain ⟨-, digits, -⟩ := natural?_eq_some_iff.mp multiplier.numeral
  have unblank : ∀ {blanks : String}, AllBlank blanks.toList → ';' ∉ lowered blanks := by
    intro blanks blank member
    exact absurd (allBlank_lowered blank ';' member) (by decide)
  have unnumbered : ';' ∉ multiplier.number.toList := fun member =>
    absurd (List.all_eq_true.mp digits ';' member) (by decide)
  have other : ';' ≠ 'x' := by decide
  rw [← mem_lowered_semicolon] at alone ⊢
  rw [lowered_text_append]
  simp only [List.mem_append, List.mem_cons, unblank multiplier.blankFront,
    unblank multiplier.blankBetween, unblank multiplier.blankBehind, unnumbered, other, alone,
    or_self, not_false_eq_true]

/-- The number and the mark are the first tokens, and those of the notation come after them. -/
theorem tokens_text_append
    (multiplier : Multiplier)
    (dice : String) :
    tokens (lowered (multiplier.text ++ dice)) =
      [.digits multiplier.number.toList] ++ .mark 'x' :: tokens (lowered dice) := by
  obtain ⟨nonempty, digits, -⟩ := natural?_eq_some_iff.mp multiplier.numeral
  have stops : ∀ next ∈ ('x' :: (lowered multiplier.behind ++ lowered dice)).head?,
      next.isDigit = false := by
    rintro _ ⟨⟩
    decide
  have apart := apart_blanks_append (allBlank_lowered multiplier.blankBetween) stops
    multiplier.number.toList
  rw [lowered_text_append, tokens_blanks_append (allBlank_lowered multiplier.blankFront),
    tokens_append apart, tokens_digits nonempty digits,
    tokens_blanks_append (allBlank_lowered multiplier.blankBetween),
    tokens_mark (by decide) (by decide),
    tokens_blanks_append (allBlank_lowered multiplier.blankBehind)]

/-- The number stands where the blanks in front of it end. -/
theorem offset_skipBlanks_text_append
    (multiplier : Multiplier)
    (dice : String) :
    (Cursor.ofText (lowered (multiplier.text ++ dice))).skipBlanks.offset =
      multiplier.front.utf8ByteSize := by
  obtain ⟨nonempty, digits, -⟩ := natural?_eq_some_iff.mp multiplier.numeral
  have stops : ∀ rest : List Char,
      (multiplier.number.toList ++ rest).takeWhile isBlank = [] := by
    intro rest
    cases shape : multiplier.number.toList with
    | nil => exact absurd shape nonempty
    | cons first others =>
        rw [shape, List.all_cons, Bool.and_eq_true] at digits
        simp [isBlank_of_isDigit digits.1]
  rw [lowered_text_append, Cursor.skipBlanks, Cursor.pass, Cursor.rest_ofText,
    List.takeWhile_append_of_pos (allBlank_lowered multiplier.blankFront), stops, List.append_nil,
    byteLength_lowered, Cursor.offset_ofText, Nat.zero_add]

end Multiplier

/-- Copies of a notation with semicolons between them stand for as many copies. -/
theorem parse_intercalate_replicate
    {text : String}
    {expression : Expression}
    {times : Nat}
    (parsed : parse text = .ok [expression])
    (positive : 0 < times)
    (few : times ≤ maxExpressions) :
    parse (String.intercalate ";" (List.replicate times text)) =
      .ok (List.replicate times expression) := by
  have copies :
      List.Forall₂ (fun text expressions => parse text = .ok expressions)
        (List.replicate times text) (List.replicate times [expression]) := by
    clear positive few
    induction times with
    | zero => exact .nil
    | succ times inductionHypothesis => exact .cons parsed inductionHypothesis
  have nonempty : List.replicate times text ≠ [] := by
    rw [ne_eq, List.replicate_eq_nil_iff]
    exact Nat.ne_of_gt positive
  have flat : (List.replicate times [expression]).flatten = List.replicate times expression :=
    List.flatten_replicate_singleton
  rw [← flat]
  refine parse_intercalate copies nonempty ?_
  rw [flat, List.length_replicate]
  exact few

/-- Behind a number and an `x` a group is repeated, or refused if there is no room for that. -/
theorem parse_text_append
    (multiplier : Multiplier)
    {dice : String}
    {expression : Expression}
    {next : Cursor}
    (alone : ';' ∉ dice.toList)
    (read : chain 1 (Cursor.ofText (lowered dice)).skipBlanks = .ok (expression, next))
    (few : expression.diceCount ≤ maxDice)
    (finished : tokens next.rest = []) :
    parse (multiplier.text ++ dice) =
      if maxExpressions < multiplier.times.toNat then
        .error (.tooMany multiplier.front.utf8ByteSize .expressions)
      else
        .ok (List.replicate multiplier.times.toNat expression) := by
  have ahead : tokens (Cursor.ofText (lowered (multiplier.text ++ dice))).rest = _ :=
    multiplier.tokens_text_append dice
  obtain ⟨count, left⟩ := repetitions_of_uint (.digits multiplier.numeral) ahead
  have same :
      tokens (Cursor.ofText (lowered dice)).skipBlanks.rest =
        tokens (repetitions (Cursor.ofText (lowered (multiplier.text ++ dice)))).2.rest := by
    rw [left, Cursor.tokens_skipBlanks, Cursor.rest_ofText]
  obtain ⟨last, readBehind, ends⟩ := chain_of_tokens_eq same read
  have exhausted : last.skipBlanks.rest = [] := by
    rw [Cursor.rest_skipBlanks_eq_nil_iff, ← ends]
    exact finished
  rw [parse_eq_of_alone (multiplier.alone_text_append alone), group_eq, count, readBehind,
    multiplier.offset_skipBlanks_text_append]
  by_cases many : maxExpressions < multiplier.times.toNat
  · simp only [if_pos many]
  · simp only [if_neg many, if_neg (Nat.not_lt.mpr few), conclude, if_pos exhausted]

/--
What a multiplier makes of a notation that is one group without repetitions.  The notation stands
for one expression, and behind the multiplier it stands for so many copies of it, or for none if the
number is zero; more copies than a notation may stand for are refused at the number.  If there are
copies, they are those that the notation stands for when it is written so many times with semicolons
between, and rolling either text rolls each copy anew, with the same outcomes and the same source
left behind.
-/
theorem parse_multiplied
    (multiplier : Multiplier)
    {dice : String}
    {expressions : List Expression}
    (alone : ';' ∉ dice.toList)
    (unrepeated : 'x' ∉ dice.toList ∧ 'X' ∉ dice.toList)
    (parsed : parse dice = .ok expressions) :
    let times := multiplier.times.toNat
    let multiplied := multiplier.text ++ dice
    ∃ expression : Expression,
      expressions = [expression] ∧
        (times ≤ 1000 → parse multiplied = .ok (List.replicate times expression)) ∧
        (1000 < times →
          parse multiplied = .error (.tooMany multiplier.front.utf8ByteSize .expressions) ∧
            Quantity.expressions.describe = "expressions" ∧ Quantity.expressions.limit = 1000) ∧
        (0 < times →
          times ≤ 1000 →
            let copies := String.intercalate ";" (List.replicate times dice)
            parse copies = parse multiplied ∧
              ∀ {σ : Type} [DieSource σ] (source : σ),
                let rolled := (rollEach (List.replicate times expression)).run source
                (roll multiplied).run source = (.ok rolled.1, rolled.2) ∧
                  (roll copies).run source = (.ok rolled.1, rolled.2)) := by
  intro times multiplied
  have unmarked : 'x' ∉ lowered dice := fun member =>
    (mem_lowered_x member).elim unrepeated.1 unrepeated.2
  obtain ⟨expression, next, rfl, read, few, finished⟩ :=
    exists_chain_of_parse alone unmarked parsed
  have whole := parse_text_append multiplier alone read few finished
  have accepted : times ≤ 1000 → parse multiplied = .ok (List.replicate times expression) :=
    fun fits => whole.trans (if_neg (Nat.not_lt.mpr fits))
  refine ⟨expression, rfl, accepted, ?_, ?_⟩
  · exact fun many => ⟨whole.trans (if_pos many), rfl, rfl⟩
  · intro positive fits copies
    have parsedCopies := parse_intercalate_replicate parsed positive fits
    refine ⟨parsedCopies.trans (accepted fits).symm, ?_⟩
    intro σ _ source
    exact ⟨run_roll_of_parse (accepted fits) source, run_roll_of_parse parsedCopies source⟩

/-- A multiplier behind a wide blank. -/
def Multiplier.wide
    (times : UInt32)
    (number : String)
    (numeral : natural? number.toList = some times.toNat) :
    Multiplier where
  times := times
  front := "\u3000"
  number := number
  between := "\t"
  mark := 'X'
  behind := " "
  numeral := numeral
  isMark := .inr rfl
  blankFront := by decide +kernel
  blankBetween := by decide +kernel
  blankBehind := by decide +kernel

/-- Zeros and wide blanks change nothing, and a large number is refused behind the blanks. -/
theorem parse_multiplied_wide_blank :
    let three := Multiplier.wide 3 "003" (by decide +kernel)
    let many := Multiplier.wide 1001 "1001" (by decide +kernel)
    ';' ∉ "d6".toList ∧
      ('x' ∉ "d6".toList ∧ 'X' ∉ "d6".toList) ∧
      parse "d6" = .ok [.single sixSided] ∧
      parse (three.text ++ "d6") = .ok (List.replicate 3 (.single sixSided)) ∧
      (roll (three.text ++ "d6")).run (Tape.ofWords [3, 5]) =
        (roll "d6;d6;d6").run (Tape.ofWords [3, 5]) ∧
      parse (many.text ++ "d6") = .error (.tooMany 3 .expressions) := by
  intro three many
  have alone : ';' ∉ "d6".toList := by
    decide +kernel
  have unrepeated : 'x' ∉ "d6".toList ∧ 'X' ∉ "d6".toList := by
    decide +kernel
  have copies : String.intercalate ";" (List.replicate 3 "d6") = "d6;d6;d6" := by
    decide +kernel
  obtain ⟨_, ⟨⟩, accepted, -, rolled⟩ := parse_multiplied three alone unrepeated parse_sixSided
  obtain ⟨-, same⟩ := rolled (by decide) (by decide)
  obtain ⟨ofMultiplied, ofCopies⟩ := same (Tape.ofWords [3, 5])
  obtain ⟨_, ⟨⟩, -, refused, -⟩ := parse_multiplied many alone unrepeated parse_sixSided
  refine ⟨alone, unrepeated, parse_sixSided, accepted (by decide), ?_, (refused (by decide)).1⟩
  rw [← copies]
  exact ofMultiplied.trans ofCopies.symm

end Notation

end DiceCup
