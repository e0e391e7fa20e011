import DiceCup.Proofs.Notation.Misses
import DiceCup.Proofs.Text.Decoding
import Mathlib.Data.List.Induction

/-!
# Numbers as they are written

A number is read by what is written in front of the cursor, and by nothing else.  `Numeral` says what
a run of digits stands for, digit by digit, and so does not mention how it is read.  A number is read
where the longest run of digits is a numeral that fits a word (`Cursor.number_eq_some_iff`), and a
signed number where at most one sign, and blanks behind it, stand in front of such a run
(`Cursor.signed_eq_some_iff`).  Either read ends right behind the run.

`Cursor.reads_iff_written` puts the two together, with what is left when there is no number to read,
and with the bonuses that terms are written with.
-/

namespace DiceCup

open Text Notation

namespace Text

/-! ## Numerals -/

/-- A run of digits and the number that it stands for: a digit, or a run with a digit behind it. -/
inductive Numeral : List Char → Nat → Prop where
  | digit
      {digit : Nat}
      (small : digit < 10) :
      Numeral [digit.digitChar] digit
  | append
      {front : List Char}
      {value digit : Nat}
      (numeral : Numeral front value)
      (small : digit < 10) :
      Numeral (front ++ [digit.digitChar]) (10 * value + digit)

/-- A digit behind a text counts for itself, and what stands in front of it ten times as much. -/
theorem digitsValue_concat
    (front : List Char)
    {digit : Nat}
    (small : digit < 10) :
    digitsValue (front ++ [digit.digitChar]) = 10 * digitsValue front + digit := by
  rw [digitsValue, Nat.ofDigitChars_append, Nat.ofDigitChars_cons_digitChar_of_lt_ten small,
    Nat.ofDigitChars_nil, digitsValue]

/-- Every digit is written for a number below ten. -/
theorem exists_digitChar_of_isDigit
    {char : Char}
    (isDigit : char.isDigit = true) :
    ∃ digit < 10, digit.digitChar = char := by
  obtain ⟨low, high⟩ := Char.isDigit_iff_toNat.mp isDigit
  have small : char.toNat - 48 < 10 := by
    have bound : char.toNat ≤ 57 := high
    omega
  refine ⟨char.toNat - 48, small, Char.toNat_inj.mp ?_⟩
  have above : 48 ≤ char.toNat := low
  rw [Nat.toNat_digitChar_of_lt_ten small]
  omega

/-- What is read as a natural number is a numeral. -/
theorem natural?_eq_some_iff_numeral
    {run : List Char}
    {value : Nat} :
    natural? run = some value ↔ Numeral run value := by
  rw [natural?_eq_some_iff]
  constructor
  · rintro ⟨nonempty, digits, rfl⟩
    -- A numeral grows at its end, so the induction takes the last digit off.
    induction run using List.reverseRecOn with
    | nil => exact absurd rfl nonempty
    | append_singleton front last inductionHypothesis =>
        rw [List.all_append, Bool.and_eq_true] at digits
        obtain ⟨frontDigits, lastDigit⟩ := digits
        obtain ⟨digit, small, rfl⟩ :=
          exists_digitChar_of_isDigit (List.all_eq_true.mp lastDigit last List.mem_cons_self)
        rw [digitsValue_concat front small]
        by_cases empty : front = []
        · subst empty
          have value : 10 * digitsValue [] + digit = digit := Nat.zero_add digit
          rw [value]
          exact .digit small
        · exact .append (inductionHypothesis empty frontDigits) small
  · intro numeral
    induction numeral with
    | digit small =>
        have isDigit := Nat.isDigit_digitChar.trans (decide_eq_true small)
        have value := digitsValue_concat [] small
        refine ⟨List.cons_ne_nil _ _, ?_, value.trans (Nat.zero_add _)⟩
        rw [List.all_cons, isDigit, List.all_nil, Bool.and_self]
    | append _ small inductionHypothesis =>
        obtain ⟨-, frontDigits, value⟩ := inductionHypothesis
        have isDigit := Nat.isDigit_digitChar.trans (decide_eq_true small)
        refine ⟨List.append_ne_nil_of_right_ne_nil _ (List.cons_ne_nil _ _), ?_, ?_⟩
        · rw [List.all_append, frontDigits, List.all_cons, isDigit, List.all_nil, Bool.and_self,
            Bool.and_self]
        · rw [digitsValue_concat _ small, value]

end Text

namespace Cursor

/-! ## Numbers in front of a cursor -/

/-- Moving over characters of a kind up to the first other one is what passing the kind does. -/
theorem pass_eq_of_movesOver
    {start next : Cursor}
    {kind : Char → Bool}
    {passed : List Char}
    (moves : start.MovesOver passed next)
    (every : ∀ char ∈ passed, kind char = true)
    (stops : ∀ char ∈ next.rest.head?, kind char = false) :
    start.rest.takeWhile kind = passed ∧ start.pass kind = next := by
  have run : start.rest.takeWhile kind = passed := by
    rw [moves.rest_eq]
    exact (takeWhile_append_of_stops every stops).1
  have passing := start.movesOver_pass kind
  rw [run] at passing
  exact ⟨run, passing.unique moves⟩

/-- The longest run of digits in front of a cursor is a numeral, and ends at the second cursor. -/
def DigitsAhead
    (start : Cursor)
    (value : Nat)
    (next : Cursor) :
    Prop :=
  ∃ run : List Char,
    start.MovesOver run next ∧
      Numeral run value ∧
      ∀ char ∈ next.rest.head?, char.isDigit = false

/-- A cursor that has digits in front of it has no blank there. -/
theorem DigitsAhead.visible
    {start next : Cursor}
    {value : Nat}
    (ahead : start.DigitsAhead value next) :
    ∃ first rest, start.rest = first :: rest ∧ first.isDigit = true ∧ isBlank first = false := by
  obtain ⟨run, moves, numeral, -⟩ := ahead
  obtain ⟨nonempty, digits, -⟩ :=
    natural?_eq_some_iff.mp (natural?_eq_some_iff_numeral.mpr numeral)
  obtain ⟨first, others, rfl⟩ := List.exists_cons_of_ne_nil nonempty
  have digit : first.isDigit = true := List.all_eq_true.mp digits first List.mem_cons_self
  exact ⟨first, others ++ next.rest, moves.rest_eq, digit, isBlank_of_isDigit digit⟩

/-- A number is read exactly where one is written, and the read ends behind it. -/
theorem number_eq_some_iff
    {cursor next : Cursor}
    {value : UInt32} :
    cursor.number = (some value, next) ↔ cursor.skipBlanks.DigitsAhead value.toNat next := by
  have value_iff :
      (natural? (cursor.skipBlanks.rest.takeWhile Char.isDigit)).bind toUInt32? = some value ↔
        Numeral (cursor.skipBlanks.rest.takeWhile Char.isDigit) value.toNat := by
    simp only [Option.bind_eq_some_iff, toUInt32?_eq_some_iff, exists_eq_right',
      natural?_eq_some_iff_numeral]
  constructor
  · intro read
    simp only [number] at read
    split at read
    next found =>
      cases read
      refine ⟨_, movesOver_pass _ Char.isDigit, value_iff.mp found, fun char member => ?_⟩
      have stops := List.head?_dropWhile_not Char.isDigit cursor.skipBlanks.rest
      simp only [pass, Option.mem_def] at member
      simpa only [member, Bool.not_eq_true] using stops
    next => cases read
  · rintro ⟨run, moves, numeral, longest⟩
    obtain ⟨-, digits, -⟩ :=
      natural?_eq_some_iff.mp (natural?_eq_some_iff_numeral.mpr numeral)
    obtain ⟨same, behind⟩ := pass_eq_of_movesOver moves (List.all_eq_true.mp digits) longest
    rw [← same] at numeral
    simp only [number, value_iff.mpr numeral, behind]

/-! ## Signs in front of a number -/

/-- The ways to write a sign in front of a number: whether it is a minus. -/
inductive SignWritten : List Char → Bool → Prop where
  | nothing : SignWritten [] false
  | plus
      {blanks : List Char}
      (blank : AllBlank blanks) :
      SignWritten ('+' :: blanks) false
  | minus
      {blanks : List Char}
      (blank : AllBlank blanks) :
      SignWritten ('-' :: blanks) true

/-- A sign, which may be left out, and the longest run of digits make a number. -/
def SignedAhead
    (start : Cursor)
    (value : Int)
    (next : Cursor) :
    Prop :=
  ∃ (sign : List Char) (negative : Bool) (middle : Cursor) (magnitude : Nat),
    SignWritten sign negative ∧
      start.MovesOver sign middle ∧
      middle.DigitsAhead magnitude next ∧
      magnitude < UInt32.size ∧
      value = if negative then -(magnitude : Int) else magnitude

/-- Where the blanks end, a minus or a plus or neither is read. -/
theorem sign_skipBlanks_cases
    (cursor : Cursor) :
    (cursor.skipBlanks.MovesOver ['-'] cursor.skipBlanks.sign.2 ∧
        cursor.skipBlanks.sign.1 = true) ∨
      (cursor.skipBlanks.MovesOver ['+'] cursor.skipBlanks.sign.2 ∧
        cursor.skipBlanks.sign.1 = false) ∨
      (cursor.skipBlanks.sign = (false, cursor.skipBlanks) ∧
        ∀ mark ∈ ['-', '+'], cursor.skipBlanks.rest.head? ≠ some mark) := by
  have again := cursor.skipBlanks_skipBlanks
  generalize cursor.skipBlanks = start at again ⊢
  simp only [sign_eq, literal, again]
  rcases start with ⟨offset, rest⟩
  cases rest with
  | nil => exact Or.inr (Or.inr ⟨rfl, by simp⟩)
  | cons first rest =>
      by_cases minus : first = '-'
      · subst minus
        exact Or.inl ⟨⟨rfl, rfl⟩, rfl⟩
      · by_cases plus : first = '+'
        · subst plus
          exact Or.inr (Or.inl ⟨⟨rfl, rfl⟩, rfl⟩)
        · have notMinus : ¬ '-' = first := fun same => minus same.symm
          have notPlus : ¬ '+' = first := fun same => plus same.symm
          right
          right
          simp [minus, plus, notMinus, notPlus]

/-- A sign that was read, with the blanks behind it, is written there. -/
theorem exists_signWritten
    (cursor : Cursor) :
    ∃ sign : List Char,
      SignWritten sign cursor.skipBlanks.sign.1 ∧
        cursor.skipBlanks.MovesOver sign cursor.skipBlanks.sign.2.skipBlanks := by
  let after := cursor.skipBlanks.sign.2
  have blanks : after.MovesOver (after.rest.takeWhile isBlank) after.skipBlanks :=
    after.movesOver_pass isBlank
  have blank : AllBlank (after.rest.takeWhile isBlank) := allBlank_takeWhile after.rest
  rcases cursor.sign_skipBlanks_cases with ⟨moves, sign⟩ | ⟨moves, sign⟩ | ⟨sign, -⟩
  · rw [sign]
    exact ⟨_, .minus blank, moves.trans blanks⟩
  · rw [sign]
    exact ⟨_, .plus blank, moves.trans blanks⟩
  · rw [sign, skipBlanks_skipBlanks]
    exact ⟨[], .nothing, rfl, rfl⟩

/-- A sign that is written in front of digits is read, and the digits come next behind the blanks. -/
theorem sign_of_signWritten
    {cursor middle next : Cursor}
    {sign : List Char}
    {negative : Bool}
    {magnitude : Nat}
    (written : SignWritten sign negative)
    (moves : cursor.skipBlanks.MovesOver sign middle)
    (ahead : middle.DigitsAhead magnitude next) :
    cursor.skipBlanks.sign.1 = negative ∧ cursor.skipBlanks.sign.2.skipBlanks = middle := by
  obtain ⟨first, others, rest, digit, visible⟩ := ahead.visible
  have stops : ∀ char ∈ middle.rest.head?, isBlank char = false := by
    rw [rest]
    rintro char ⟨⟩
    exact visible
  -- What is written starts with a minus, with a plus or with a digit, and so does what is read.
  rcases cursor.sign_skipBlanks_cases with ⟨read, sign⟩ | ⟨read, sign⟩ | ⟨sign, unsigned⟩
  · have minus := read.head?_rest
    cases written with
    | nothing =>
        rw [moves.rest_eq, List.nil_append, rest] at minus
        cases minus
        cases digit
    | plus blank => cases minus.symm.trans moves.head?_rest
    | minus blank =>
        have behind := read.behind moves
        exact ⟨sign, (pass_eq_of_movesOver behind blank stops).2⟩
  · have plus := read.head?_rest
    cases written with
    | nothing =>
        rw [moves.rest_eq, List.nil_append, rest] at plus
        cases plus
        cases digit
    | plus blank =>
        have behind := read.behind moves
        exact ⟨sign, (pass_eq_of_movesOver behind blank stops).2⟩
    | minus blank => cases plus.symm.trans moves.head?_rest
  · cases written with
    | nothing =>
        rw [sign, skipBlanks_skipBlanks]
        exact ⟨rfl, (MovesOver.refl _).unique moves⟩
    | plus blank => exact absurd moves.head?_rest (unsigned '+' (by decide))
    | minus blank => exact absurd moves.head?_rest (unsigned '-' (by decide))

/-- A signed number is read exactly where one is written, and the read ends behind it. -/
theorem signed_eq_some_iff
    {cursor next : Cursor}
    {value : Int32} :
    cursor.signed = (some value, next) ↔ cursor.skipBlanks.SignedAhead value.toInt next := by
  constructor
  · intro read
    rw [signed_eq] at read
    split at read
    next found =>
      cases read
      obtain ⟨magnitude, number, fits⟩ := Option.bind_eq_some_iff.mp found
      obtain ⟨sign, written, moves⟩ := cursor.exists_signWritten
      have digits := number_eq_some_iff.mp (Prod.ext number rfl)
      exact ⟨sign, _, _, magnitude.toNat, written, moves, digits, magnitude.toNat_lt,
        applySign_eq_some_iff.mp fits⟩
    next => cases read
  · rintro ⟨sign, negative, middle, magnitude, written, moves, ahead, small, value_eq⟩
    obtain ⟨same, behind⟩ := sign_of_signWritten written moves ahead
    let word := UInt32.ofNatLT magnitude small
    have size : word.toNat = magnitude := UInt32.toNat_ofNatLT
    have number : cursor.skipBlanks.sign.2.number = (some word, next) := by
      rw [number_eq_some_iff, behind, size]
      exact ahead
    have signed := signed_of_number (congrArg Prod.fst number) (by rw [same, size]; exact value_eq)
    rw [signed, number]

/-! ## Reading what is written -/

/-- A sign and a number right behind it are read in front of anything but a digit. -/
theorem signed_of_mark
    {mark : Char}
    {negative : Bool}
    {magnitude : Nat}
    {value : Int32}
    (visible : isBlank mark = false)
    (written : SignWritten [mark] negative)
    (value_eq : value.toInt = if negative then -(magnitude : Int) else magnitude)
    (offset : Nat)
    {after : List Char}
    (stops : ∀ char ∈ after.head?, char.isDigit = false) :
    (⟨offset, mark :: Nat.toDigits 10 magnitude ++ after⟩ : Cursor).signed =
      (some value,
        ⟨offset + byteLength (mark :: Nat.toDigits 10 magnitude), after⟩) := by
  let start : Cursor := ⟨offset, mark :: Nat.toDigits 10 magnitude ++ after⟩
  let middle : Cursor := ⟨offset + byteLength [mark], Nat.toDigits 10 magnitude ++ after⟩
  have unblank : ∀ char ∈ start.rest.head?, isBlank char = false := by
    rintro char ⟨⟩
    exact visible
  have here : start.skipBlanks = start :=
    (pass_eq_of_movesOver (.refl start) (List.forall_mem_nil _) unblank).2
  have small : magnitude < UInt32.size := by
    have lower : -2147483648 ≤ value.toInt := value.minValue_le_toInt
    have upper : value.toInt ≤ 2147483647 := value.toInt_le
    rw [UInt32.size]
    cases negative <;> simp only [Bool.false_eq_true, if_true, if_false] at value_eq <;> omega
  have numeral : Numeral (Nat.toDigits 10 magnitude) magnitude :=
    natural?_eq_some_iff_numeral.mp (natural?_toDigits magnitude)
  rw [signed_eq_some_iff]
  show start.skipBlanks.SignedAhead _ _
  rw [here]
  refine ⟨[mark], negative, middle, magnitude, written, ⟨rfl, rfl⟩, ?_, small, value_eq⟩
  refine ⟨Nat.toDigits 10 magnitude, ⟨rfl, ?_⟩, numeral, stops⟩
  rw [← List.singleton_append, byteLength_append, Nat.add_assoc]

/-- A bonus is read as it is written, whatever stands behind its last digit. -/
theorem signed_signedSuffix
    {value : Int32}
    (nonzero : value ≠ 0)
    (offset : Nat)
    {after : List Char}
    (stops : ∀ char ∈ after.head?, char.isDigit = false) :
    (⟨offset, (signedSuffix value.toInt).toList ++ after⟩ : Cursor).signed =
      (some value, ⟨offset + (signedSuffix value.toInt).utf8ByteSize, after⟩) := by
  rw [← byteLength_toList]
  rcases signedSuffix_cases value.toInt with
    ⟨zero, -⟩ | ⟨magnitude, value_eq, text⟩ | ⟨magnitude, value_eq, text⟩
  · exact absurd (Int32.toInt.inj zero) nonzero
  · have plus : (signedSuffix value.toInt).toList = '+' :: Nat.toDigits 10 magnitude := by
      rw [text, String.toList_append, toList_toString_nat]
      rfl
    rw [plus]
    exact signed_of_mark (by decide) (.plus (List.forall_mem_nil _)) value_eq offset stops
  · have minus : (signedSuffix value.toInt).toList = '-' :: Nat.toDigits 10 magnitude := by
      rw [text, String.toList_append, toList_toString_nat]
      rfl
    rw [minus]
    exact signed_of_mark (by decide) (.minus (List.forall_mem_nil _)) value_eq offset stops

/--
What the reads of numbers answer and where they end.  From the place where the blanks in front of the
cursor end, a number without a sign is read exactly if digits that fit a word are ahead, a number with
a sign exactly if a sign and digits are ahead whose value fits a signed word, and the cursor ends
behind the longest run of digits.  A read without an answer ends where the blanks end.  What stands
behind the sides of a die is read back as the bonus that it was written for.
-/
theorem reads_iff_written
    (cursor : Cursor) :
    (∃ (blanks : List Char) (start : Cursor),
        AllBlank blanks ∧
          (∀ first ∈ start.rest.head?, isBlank first = false) ∧
          cursor.MovesOver blanks start ∧
          (∀ (value : UInt32) (next : Cursor),
            cursor.number = (some value, next) ↔ start.DigitsAhead value.toNat next) ∧
          (∀ (value : Int32) (next : Cursor),
            cursor.signed = (some value, next) ↔ start.SignedAhead value.toInt next) ∧
          (∀ next : Cursor, cursor.number = (none, next) → next = start) ∧
          ∀ next : Cursor, cursor.signed = (none, next) → next = start) ∧
      ∀ (value : Int32) (offset : Nat) (after : List Char),
        value ≠ 0 →
          (∀ char ∈ after.head?, char.isDigit = false) →
            (⟨offset, (signedSuffix value.toInt).toList ++ after⟩ : Cursor).signed =
              (some value, ⟨offset + (signedSuffix value.toInt).utf8ByteSize, after⟩) := by
  refine ⟨⟨cursor.rest.takeWhile isBlank, cursor.skipBlanks, allBlank_takeWhile cursor.rest,
    isBlank_head_dropBlanks cursor.rest, cursor.movesOver_pass isBlank,
    fun _ _ => number_eq_some_iff, fun _ _ => signed_eq_some_iff,
    fun _ missing => number_missing missing, fun _ missing => signed_missing missing⟩, ?_⟩
  intro value offset after nonzero stops
  exact signed_signedSuffix nonzero offset stops

/-- A number that is set apart from its sign is ahead, and the least bonus there is is read back. -/
theorem reads_iff_written_least :
    (∃ start : Cursor, start.SignedAhead (-7) ⟨7, ['x']⟩) ∧
      Int32.minValue ≠ 0 ∧
      (⟨3, (signedSuffix Int32.minValue.toInt).toList ++ [';', '4']⟩ : Cursor).signed =
        (some Int32.minValue, ⟨14, [';', '4']⟩) := by
  let apart : Cursor := Cursor.ofText [' ', '-', '\u3000', '0', '7', 'x']
  have read : apart.signed = (some (-7), ⟨7, ['x']⟩) := by
    decide +kernel
  obtain ⟨⟨-, start, -, -, -, -, signed, -⟩, -⟩ := reads_iff_written apart
  have nonzero : Int32.minValue ≠ 0 := by
    decide
  have stops : ∀ char ∈ [';', '4'].head?, char.isDigit = false := by
    rintro char ⟨⟩
    rfl
  exact ⟨⟨start, (signed (-7) _).mp read⟩, nonzero,
    (reads_iff_written apart).2 Int32.minValue 3 [';', '4'] nonzero stops⟩

end Cursor

end DiceCup
