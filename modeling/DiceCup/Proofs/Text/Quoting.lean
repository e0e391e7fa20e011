import DiceCup.Proofs.Text.Decoding
import DiceCup.Text.Quoted

/-!
# Quoted text, read back

Every character of a quoted text is spelled in a way of its own: by a backslash and a letter, by the
number of its code point, or by itself, if it is neither the quote nor the backslash.  So the text is
read back up to the quote that ends it (`Decoder.reads_quoted`), whatever it holds, spellings and
quotes among it.

What is spelled is fit to be shown (`oneLine_spell`): no control character and no end of a line
is left as it is.
-/

namespace DiceCup.Text

/-! ## Hexadecimal numbers -/

/-- The value of a hexadecimal digit in lower case. -/
def hexDigitValue
    (char : Char) :
    Nat :=
  if char.isDigit then char.toNat - '0'.toNat else char.toNat - 'a'.toNat + 10

/-- The value of a run of hexadecimal digits. -/
def hexValue
    (digits : List Char) :
    Nat :=
  digits.foldl (fun value char => 16 * value + hexDigitValue char) 0

/-- The digits of hexadecimal numbers. -/
def hexDigits : List Char :=
  ['0', '1', '2', '3', '4', '5', '6', '7', '8', '9', 'a', 'b', 'c', 'd', 'e', 'f']

/-- A digit that is written for a number below sixteen. -/
theorem hexDigit_digitChar
    {digit : Nat}
    (small : digit < 16) :
    digit.digitChar ∈ hexDigits ∧ hexDigitValue digit.digitChar = digit := by
  have every :
      ∀ digit < 16,
        Nat.digitChar digit ∈ hexDigits ∧ hexDigitValue (Nat.digitChar digit) = digit := by
    decide
  exact every digit small

/-- A number is written in hexadecimal digits, and they have its value. -/
theorem hexValue_toDigits
    (value : Nat) :
    (∀ char ∈ Nat.toDigits 16 value, char ∈ hexDigits) ∧
      hexValue (Nat.toDigits 16 value) = value := by
  induction value using Nat.strongRecOn with
  | ind value inductionHypothesis =>
      rw [Nat.toDigits_eq_if (by decide)]
      split
      next small =>
        obtain ⟨isDigit, digitValue⟩ := hexDigit_digitChar small
        refine ⟨fun char member => List.mem_singleton.mp member ▸ isDigit, ?_⟩
        rw [hexValue, List.foldl_cons, List.foldl_nil, digitValue]
        omega
      next large =>
        obtain ⟨frontDigits, frontValue⟩ := inductionHypothesis (value / 16) (by omega)
        obtain ⟨isDigit, digitValue⟩ := hexDigit_digitChar (Nat.mod_lt value (by decide))
        constructor
        · intro char member
          rcases List.mem_append.mp member with front | last
          · exact frontDigits char front
          · exact List.mem_singleton.mp last ▸ isDigit
        · rw [hexValue, List.foldl_append, ← hexValue, frontValue, List.foldl_cons,
            List.foldl_nil, digitValue]
          omega

/-! ## Spellings -/

/-- The characters that are spelled by a letter, and their letters. -/
def letters : List (Char × Char) :=
  [('\x00', '0'), ('\t', 't'), ('\r', 'r'), ('\n', 'n'), ('"', '"'), ('\\', '\\')]

/-- The three ways in which a character is spelled. -/
theorem spell_cases
    (char : Char) :
    (∃ letter : Char, (char, letter) ∈ letters ∧ spell char = ['\\', letter]) ∨
      spell char = spellPoint char ∨
      (spell char = [char] ∧ char ≠ '"' ∧ char ≠ '\\' ∧ isHidden char = false) := by
  by_cases lettered : ∃ letter : Char, (char, letter) ∈ letters
  · obtain ⟨letter, member⟩ := lettered
    refine Or.inl ⟨letter, member, ?_⟩
    simp only [letters, List.mem_cons, List.not_mem_nil, or_false, Prod.mk.injEq] at member
    rcases member with
      ⟨rfl, rfl⟩ | ⟨rfl, rfl⟩ | ⟨rfl, rfl⟩ | ⟨rfl, rfl⟩ | ⟨rfl, rfl⟩ | ⟨rfl, rfl⟩ <;> rfl
  · right
    simp only [letters, List.mem_cons, List.not_mem_nil, or_false, Prod.mk.injEq, exists_or,
      exists_and_left, exists_eq, and_true, not_or] at lettered
    obtain ⟨noNull, noTab, noReturn, noLineFeed, noQuote, noBackslash⟩ := lettered
    simp only [spell, if_neg noNull, if_neg noTab, if_neg noReturn, if_neg noLineFeed,
      if_neg noQuote, if_neg noBackslash]
    cases hidden : isHidden char with
    | true => exact Or.inl rfl
    | false => exact Or.inr ⟨rfl, noQuote, noBackslash, rfl⟩

namespace Decoder

/-- Take a run of hexadecimal digits off. -/
def hexadecimal :
    Decoder Nat :=
  fun text =>
    some (hexValue (text.takeWhile (· ∈ hexDigits)), text.dropWhile (· ∈ hexDigits))

theorem run_hexadecimal
    (text : List Char) :
    hexadecimal.run text =
      some (hexValue (text.takeWhile (· ∈ hexDigits)), text.dropWhile (· ∈ hexDigits)) :=
  rfl

theorem reads_hexadecimal
    (value : Nat) :
    hexadecimal.Reads (Nat.toDigits 16 value) value fun rest =>
      ∀ char ∈ rest.head?, char ∉ hexDigits := by
  intro rest stops
  obtain ⟨digits, same⟩ := hexValue_toDigits value
  have every : ∀ char ∈ Nat.toDigits 16 value, decide (char ∈ hexDigits) = true :=
    fun char member => decide_eq_true (digits char member)
  have parts := takeWhile_append_of_stops every fun char member =>
    decide_eq_false (stops char member)
  rw [run_hexadecimal, parts.1, parts.2, same]

/-- Take any one character off. -/
def anyChar :
    Decoder Char :=
  fun text =>
    match text with
    | [] => none
    | char :: rest => some (char, rest)

/-! ## Spelled characters -/

/-- Take the number of a code point off, with the brace behind it. -/
def braced :
    Decoder Char := do
  let point ← hexadecimal
  literal "\x7d"
  return Char.ofNat point

/-- The ways to spell a character with a backslash. -/
def escapes : List (String × Decoder Char) :=
  letters.map (fun (char, letter) => (String.ofList ['\\', letter], pure char)) ++
    [("\\u\x7b", braced)]

theorem apart_escapes :
    Apart (escapes.map Prod.fst) := by
  decide

/-- Take a character off, however it is spelled. -/
def spelled :
    Decoder Char :=
  oneOf escapes <|> anyChar

/-- A character is read back from its spelling, whatever follows. -/
theorem reads_spelled
    (char : Char) :
    spelled.Reads (spell char) char fun _ => True := by
  rcases spell_cases char with ⟨letter, member, text⟩ | text | ⟨text, -, noBackslash, -⟩
  · have among :
        (String.ofList ['\\', letter], (pure char : Decoder Char)) ∈ escapes :=
      List.mem_append_left _ (List.mem_map_of_mem member)
    have escaped := Reads.oneOf apart_escapes among (.pure char fun _ => True)
    rw [String.toList_ofList, List.append_nil] at escaped
    rw [text]
    exact escaped.orElse_left
  · have closes : ∀ rest : List Char, True → ∀ first ∈ ("\x7d".toList ++ [] ++ rest).head?,
        first ∉ hexDigits := by
      rintro rest - first ⟨⟩
      decide
    have point :
        braced.Reads (Nat.toDigits 16 char.toNat ++ ("\x7d".toList ++ []))
          (Char.ofNat char.toNat) fun _ => True :=
      .bind (reads_hexadecimal char.toNat) closes (.literal (.pure _ _))
    rw [Char.ofNat_toNat] at point
    have escaped := Reads.oneOf apart_escapes (List.mem_append_right _ List.mem_cons_self) point
    rw [text]
    exact escaped.orElse_left
  · rw [text]
    refine .orElse_right (fun rest _ => run_oneOf_eq_none ?_) fun rest _ => rfl
    have backslashes : ∀ word ∈ escapes.map Prod.fst, word.toList.head? = some '\\' := by
      decide
    rintro word member ⟨after, shape⟩
    have first := congrArg List.head? shape
    rw [List.head?_append, backslashes word member] at first
    exact noBackslash (Option.some.inj first).symm

/-- Take a quoted text off. -/
def quoted :
    Decoder String := do
  literal "\""
  let chars ← manyUntil "\"" spelled
  return String.ofList chars

/-- A quoted text is read back, whatever follows its closing quote. -/
theorem reads_quoted
    (text : String)
    (follows : List Char → Prop) :
    quoted.Reads (quote text).toList text follows := by
  have unclosed : ∀ char ∈ text.toList, ∀ rest : List Char, ¬ "\"".toList <+: spell char ++ rest := by
    rintro char - rest ⟨after, shape⟩
    rcases spell_cases char with ⟨letter, -, spelled⟩ | spelled | ⟨spelled, noQuote, -⟩
    · rw [spelled] at shape
      cases shape
    · rw [spelled, spellPoint] at shape
      cases shape
    · rw [spelled] at shape
      cases shape
      exact noQuote rfl
  have chars := Reads.manyUntil text.toList (fun char _ => spell_ne_nil char) unclosed
    (fun char _ => reads_spelled char) follows
  have reads :
      quoted.Reads ("\"".toList ++ (text.toList.flatMap spell ++ "\"".toList))
        (String.ofList text.toList) follows :=
    .literal (chars.map String.ofList)
  rw [String.ofList_toList] at reads
  rw [toList_quote]
  exact reads

end Decoder

/-! ## What is fit to be shown -/

/-- A control character: the general category `Cc`. -/
def IsControl
    (char : Char) :
    Prop :=
  char.toNat ≤ 0x1F ∨ (0x7F ≤ char.toNat ∧ char.toNat ≤ 0x9F)

/-- A character that ends a line, or a paragraph. -/
def EndsLine
    (char : Char) :
    Prop :=
  (0xA ≤ char.toNat ∧ char.toNat ≤ 0xD) ∨ char.toNat = 0x85 ∨ char.toNat = 0x2028 ∨
    char.toNat = 0x2029

/-- A character that may stand inside a line. -/
def IsPlain
    (char : Char) :
    Prop :=
  ¬ IsControl char ∧ ¬ EndsLine char

/-- A text on one line. -/
def OneLine
    (text : List Char) :
    Prop :=
  ∀ char ∈ text, IsPlain char

theorem OneLine.append
    {front behind : List Char}
    (first : OneLine front)
    (second : OneLine behind) :
    OneLine (front ++ behind) :=
  List.forall_mem_append.mpr ⟨first, second⟩

/-- The printable characters of ASCII are plain. -/
theorem oneLine_of_ascii
    {text : List Char}
    (ascii : (text.all fun char => 0x20 ≤ char.toNat && char.toNat ≤ 0x7E) = true) :
    OneLine text := by
  intro char member
  have visible := List.all_eq_true.mp ascii char member
  simp only [Bool.and_eq_true, decide_eq_true_eq] at visible
  constructor
  · rintro (low | high) <;> omega
  · rintro (feed | next | line | paragraph) <;> omega

theorem oneLine_toDigits
    (value : Nat) :
    OneLine (Nat.toDigits 10 value) := by
  obtain ⟨-, digits, -⟩ := natural?_eq_some_iff.mp (natural?_toDigits value)
  apply oneLine_of_ascii
  rw [List.all_eq_true] at digits ⊢
  intro char member
  obtain ⟨low, high⟩ := Char.isDigit_iff_toNat.mp (digits char member)
  have atLeast : 48 ≤ char.toNat := low
  have atMost : char.toNat ≤ 57 := high
  simp only [Bool.and_eq_true, decide_eq_true_eq]
  omega

/-- A character that has a printed form is plain. -/
theorem isPlain_of_printable
    {char : Char}
    (printable : isUnprintable char = false) :
    IsPlain char := by
  have outside :
      ∀ first last : Nat, (first, last) ∈ unprintableRanges.toList →
        ¬ (first ≤ char.toNat ∧ char.toNat ≤ last) := by
    intro first last member inside
    have held : isUnprintable char = true :=
      CodeRanges.holds_iff.mpr ⟨(first, last), Array.mem_toList_iff.mp member, inside⟩
    rw [printable] at held
    cases held
  have low := outside 0x0 0x1F (by decide +kernel)
  have high := outside 0x7F 0xA0 (by decide +kernel)
  have separators := outside 0x2028 0x202F (by decide +kernel)
  constructor
  · rintro (isLow | isHigh) <;> omega
  · rintro (feed | next | line | paragraph) <;> omega

/-- However a character is spelled, its spelling is plain. -/
theorem oneLine_spell
    (char : Char) :
    OneLine (spell char) := by
  rcases spell_cases char with ⟨letter, lettered, spelled⟩ | spelled | ⟨spelled, -, -, visible⟩
  · have plain : letter ∈ letters.map Prod.snd := List.mem_map_of_mem lettered
    have backslash : OneLine ['\\'] := oneLine_of_ascii rfl
    have every : OneLine (letters.map Prod.snd) := oneLine_of_ascii rfl
    rw [spelled, ← List.singleton_append]
    exact backslash.append fun shown member => List.mem_singleton.mp member ▸ every letter plain
  · have digits : OneLine hexDigits := oneLine_of_ascii rfl
    have opening : OneLine ['\\', 'u', '\x7b'] := oneLine_of_ascii rfl
    have closing : OneLine ['\x7d'] := oneLine_of_ascii rfl
    have point : OneLine (Nat.toDigits 16 char.toNat) := fun shown member =>
      digits shown ((hexValue_toDigits char.toNat).1 shown member)
    rw [spelled]
    exact (opening.append point).append closing
  · rw [spelled]
    simp only [isHidden, Bool.or_eq_false_iff] at visible
    exact fun shown member => List.mem_singleton.mp member ▸ isPlain_of_printable visible.2

/-- A quoted text stays on its line, whatever it holds. -/
theorem oneLine_quote
    (text : String) :
    OneLine (quote text).toList := by
  have mark : OneLine ['"'] := oneLine_of_ascii rfl
  rw [toList_quote, ← List.singleton_append]
  refine (mark.append ?_).append mark
  intro shown member
  obtain ⟨char, -, spelled⟩ := List.mem_flatMap.mp member
  exact oneLine_spell char shown spelled

end DiceCup.Text
