import DiceCup.Proofs.Notation.Rendering

/-!
# Reading texts back

A decoder takes a value off the start of a text and leaves the rest.  `Decoder.Reads` says that it
undoes what was written for one value, whatever follows, as long as that does not go on what was
written: a number must not be followed by a digit.  Decoders are put together as texts are, and there
is one rule for each way to put them together, so that a decoder of a whole format needs no argument
of its own beyond what may follow each of its parts.

Texts that a decoder reads are told apart by it (`Decoder.Reads.decode`): it gives the value back.
-/

namespace DiceCup.Text

/-- Characters of a kind in front of a text that does not start with one are all of the first ones. -/
theorem takeWhile_append_of_stops
    {kind : Char → Bool}
    {run rest : List Char}
    (every : ∀ char ∈ run, kind char = true)
    (stops : ∀ char ∈ rest.head?, kind char = false) :
    (run ++ rest).takeWhile kind = run ∧ (run ++ rest).dropWhile kind = rest := by
  rw [List.takeWhile_append_of_pos every, List.dropWhile_append_of_pos every]
  cases rest with
  | nil => exact ⟨List.append_nil run, rfl⟩
  | cons first others =>
      have other : kind first = false := stops first rfl
      rw [List.takeWhile_cons, List.dropWhile_cons, other]
      exact ⟨List.append_nil run, rfl⟩

/-- A text that does not go on a run of digits. -/
def NoDigit
    (text : List Char) :
    Prop :=
  ∀ char ∈ text.head?, char.isDigit = false

/-- A text that goes on neither a run of digits nor a text that a signed number may stand behind. -/
def NoNumber
    (text : List Char) :
    Prop :=
  ∀ char ∈ text.head?, char.isDigit = false ∧ char ≠ '+' ∧ char ≠ '-'

theorem NoNumber.noDigit
    {text : List Char}
    (ends : NoNumber text) :
    NoDigit text :=
  fun char member => (ends char member).1

theorem toList_toString_nat
    (value : Nat) :
    (toString value).toList = Nat.toDigits 10 value :=
  Nat.toList_repr

/-- What a value is taken off by: it gives the value and the text that is left, or refuses. -/
abbrev Decoder (α : Type) :=
  StateT (List Char) Option α

namespace Decoder

variable {α β : Type}

/-- The decoder takes a value off what was written for it, in front of every text that may follow. -/
def Reads
    (decoder : Decoder α)
    (written : List Char)
    (value : α)
    (follows : List Char → Prop) :
    Prop :=
  ∀ rest : List Char, follows rest → decoder.run (written ++ rest) = some (value, rest)

/-- The value of a whole text, of which nothing may be left. -/
def decode
    (decoder : Decoder α)
    (text : String) :
    Option α :=
  match decoder.run text.toList with
  | some (value, []) => some value
  | _ => none

/-- A text that was written for a value is decoded as it. -/
theorem Reads.decode
    {decoder : Decoder α}
    {text : String}
    {value : α}
    {follows : List Char → Prop}
    (reads : decoder.Reads text.toList value follows)
    (nothing : follows []) :
    decoder.decode text = some value := by
  have whole := reads [] nothing
  rw [List.append_nil] at whole
  rw [Decoder.decode, whole]

/-- What is read in front of some texts is read in front of fewer. -/
theorem Reads.mono
    {decoder : Decoder α}
    {written : List Char}
    {value : α}
    {follows fewer : List Char → Prop}
    (reads : decoder.Reads written value follows)
    (among : ∀ rest : List Char, fewer rest → follows rest) :
    decoder.Reads written value fewer :=
  fun rest following => reads rest (among rest following)

/-! ## One after another -/

theorem Reads.pure
    (value : α)
    (follows : List Char → Prop) :
    Reads (Pure.pure value) [] value follows :=
  fun _ _ => rfl

/-- A decoder after another one reads what is written behind it. -/
theorem Reads.bind
    {first : Decoder α}
    {second : α → Decoder β}
    {written more : List Char}
    {value : α}
    {result : β}
    {follows followsMore : List Char → Prop}
    (reads : first.Reads written value follows)
    (leads : ∀ rest : List Char, followsMore rest → follows (more ++ rest))
    (readsMore : (second value).Reads more result followsMore) :
    (first >>= second).Reads (written ++ more) result followsMore := by
  intro rest following
  rw [StateT.run_bind, List.append_assoc, reads _ (leads rest following)]
  exact readsMore rest following

/-- What is read last may be worked on. -/
theorem Reads.map
    {decoder : Decoder α}
    {written : List Char}
    {value : α}
    {follows : List Char → Prop}
    (reads : decoder.Reads written value follows)
    (work : α → β) :
    (decoder >>= fun value => Pure.pure (work value)).Reads written (work value) follows := by
  intro rest following
  rw [StateT.run_bind, reads rest following]
  rfl

/-- What is read last may be looked at once more, as long as it is not refused. -/
theorem Reads.check
    {decoder : Decoder α}
    {written : List Char}
    {value : α}
    {result : β}
    {follows : List Char → Prop}
    {check : α → Option β}
    (reads : decoder.Reads written value follows)
    (passes : check value = some result) :
    (decoder >>= fun value => liftM (check value)).Reads written result follows := by
  intro rest following
  rw [StateT.run_bind, reads rest following]
  show (liftM (check value) : Decoder β).run rest = _
  rw [passes]
  rfl

/-! ## Fixed words -/

/-- Take a fixed word off. -/
def literal
    (word : String) :
    Decoder Unit :=
  fun text =>
    if word.toList.isPrefixOf text then some ((), text.drop word.toList.length) else none

theorem run_literal
    (word : String)
    (text : List Char) :
    (literal word).run text =
      if word.toList.isPrefixOf text then some ((), text.drop word.toList.length) else none :=
  rfl

/-- A word that stands in front is taken off. -/
theorem run_literal_append
    (word : String)
    (rest : List Char) :
    (literal word).run (word.toList ++ rest) = some ((), rest) := by
  have here : word.toList.isPrefixOf (word.toList ++ rest) = true :=
    List.isPrefixOf_iff_prefix.mpr (List.prefix_append _ _)
  rw [run_literal, if_pos here, List.drop_left]

/-- A word is not read where another text stands. -/
theorem run_literal_eq_none
    {word : String}
    {text : List Char}
    (other : ¬ word.toList <+: text) :
    (literal word).run text = none := by
  have missing : ¬ word.toList.isPrefixOf text = true :=
    fun here => other (List.isPrefixOf_iff_prefix.mp here)
  rw [run_literal, if_neg missing]

/-- A word is read, and what is written behind it is read next. -/
theorem Reads.literal
    {word : String}
    {second : Unit → Decoder β}
    {more : List Char}
    {result : β}
    {follows : List Char → Prop}
    (reads : (second ()).Reads more result follows) :
    (Decoder.literal word >>= second).Reads (word.toList ++ more) result follows := by
  intro rest following
  rw [StateT.run_bind, List.append_assoc, run_literal_append]
  exact reads rest following

/-- Where the word does not stand nothing is read. -/
theorem run_literal_bind_eq_none
    {word : String}
    {second : Unit → Decoder β}
    {text : List Char}
    (other : ¬ word.toList <+: text) :
    (Decoder.literal word >>= second).run text = none := by
  rw [StateT.run_bind, run_literal_eq_none other]
  rfl

/-! ## One or another -/

theorem Reads.orElse_left
    {first second : Decoder α}
    {written : List Char}
    {value : α}
    {follows : List Char → Prop}
    (reads : first.Reads written value follows) :
    (first <|> second).Reads written value follows := by
  intro rest following
  show (first.run _ <|> second.run _) = _
  rw [reads rest following]
  rfl

/-- The second decoder reads what the first one refuses. -/
theorem Reads.orElse_right
    {first second : Decoder α}
    {written : List Char}
    {value : α}
    {follows : List Char → Prop}
    (refused : ∀ rest : List Char, follows rest → first.run (written ++ rest) = none)
    (reads : second.Reads written value follows) :
    (first <|> second).Reads written value follows := by
  intro rest following
  show (first.run _ <|> second.run _) = _
  rw [refused rest following, reads rest following]
  rfl

/-- Go on by the first of some words that the text starts with. -/
def oneOf :
    List (String × Decoder α) → Decoder α
  | [] => failure
  | (word, decoder) :: others => (do literal word; decoder) <|> oneOf others

/-- Words none of which starts with another one. -/
def Apart
    (words : List String) :
    Prop :=
  words.Pairwise fun first second =>
    ¬ first.toList <+: second.toList ∧ ¬ second.toList <+: first.toList

instance
    (words : List String) :
    Decidable (Apart words) :=
  inferInstanceAs (Decidable (List.Pairwise _ _))

/-- Of words that are apart, the one that was written decides how to go on. -/
theorem Reads.oneOf
    {options : List (String × Decoder α)}
    {word : String}
    {decoder : Decoder α}
    {written : List Char}
    {value : α}
    {follows : List Char → Prop}
    (apart : Apart (options.map Prod.fst))
    (member : (word, decoder) ∈ options)
    (reads : decoder.Reads written value follows) :
    (Decoder.oneOf options).Reads (word.toList ++ written) value follows := by
  induction options with
  | nil => cases member
  | cons option others inductionHypothesis =>
      rw [Apart, List.map_cons, List.pairwise_cons] at apart
      obtain ⟨apartFirst, apartOthers⟩ := apart
      rcases List.mem_cons.mp member with rfl | later
      · exact (Reads.literal reads).orElse_left
      · refine .orElse_right (fun rest _ => ?_) (inductionHypothesis apartOthers later)
        have different := apartFirst word (List.mem_map_of_mem later)
        apply run_literal_bind_eq_none
        intro here
        rw [List.append_assoc] at here
        rcases List.prefix_or_prefix_of_prefix here (List.prefix_append _ _) with inside | inside
        · exact different.1 inside
        · exact different.2 inside

/-- A text that starts with none of the words is refused. -/
theorem run_oneOf_eq_none
    {options : List (String × Decoder α)}
    {text : List Char}
    (none : ∀ word ∈ options.map Prod.fst, ¬ word.toList <+: text) :
    (oneOf options).run text = .none := by
  induction options with
  | nil => rfl
  | cons option others inductionHypothesis =>
      rw [List.map_cons, List.forall_mem_cons] at none
      show ((literal option.1 >>= fun _ => option.2).run text <|> (oneOf others).run text) = _
      rw [run_literal_bind_eq_none none.1, inductionHypothesis none.2]
      rfl

/-! ## Several of a kind -/

/-- Take values off that stand one behind another with a separator between them. -/
def separatedBy
    (separator : String)
    (item : Decoder α) :
    Decoder (List α) :=
  fun text =>
    match item.run text with
    | none => none
    | some (value, rest) =>
      match (literal separator).run rest with
      | none => some ([value], rest)
      | some ((), after) =>
        if _shorter : after.length < text.length then
          (separatedBy separator item after).map fun (values, last) => (value :: values, last)
        else
          none
termination_by text => text.length

/-- Take values off until a closing word comes, which is taken off too. -/
def manyUntil
    (closing : String)
    (item : Decoder α) :
    Decoder (List α) :=
  fun text =>
    match (literal closing).run text with
    | some ((), rest) => some ([], rest)
    | none =>
      match item.run text with
      | none => none
      | some (value, rest) =>
        if _shorter : rest.length < text.length then
          (manyUntil closing item rest).map fun (values, last) => (value :: values, last)
        else
          none
termination_by text => text.length

/-- Values with a separator between them are read, in front of anything but another separator. -/
theorem Reads.separatedBy
    {separator : String}
    {item : Decoder α}
    {write : α → List Char}
    {follows : List Char → Prop}
    (nonempty : separator.toList ≠ [])
    (joins : ∀ rest : List Char, follows (separator.toList ++ rest))
    (first : α)
    (others : List α)
    (reads : ∀ value ∈ first :: others, item.Reads (write value) value follows) :
    Reads (Decoder.separatedBy separator item)
      (separator.toList.intercalate ((first :: others).map write)) (first :: others)
      fun rest => follows rest ∧ ¬ separator.toList <+: rest := by
  induction others generalizing first with
  | nil =>
      rintro rest ⟨following, ends⟩
      rw [List.map_singleton, List.intercalate_singleton, StateT.run, Decoder.separatedBy,
        reads first List.mem_cons_self rest following]
      simp only [run_literal_eq_none ends]
  | cons second others inductionHypothesis =>
      rintro rest following
      have later := inductionHypothesis second (fun value member =>
        reads value (List.mem_cons_of_mem first member)) rest following
      rw [List.map_cons, List.map_cons, List.intercalate_cons_cons, StateT.run,
        Decoder.separatedBy, List.append_assoc, List.append_assoc,
        reads first List.mem_cons_self _ (joins _)]
      rw [List.map_cons, StateT.run] at later
      have positive := List.length_pos_iff.mpr nonempty
      simp only [run_literal_append]
      rw [dif_pos (by simp only [List.length_append]; omega), later]
      rfl

/-- Values up to a closing word are read, if no value starts with that word. -/
theorem Reads.manyUntil
    {closing : String}
    {item : Decoder α}
    {write : α → List Char}
    (values : List α)
    (nonempty : ∀ value ∈ values, write value ≠ [])
    (unclosed : ∀ value ∈ values, ∀ rest : List Char, ¬ closing.toList <+: write value ++ rest)
    (reads : ∀ value ∈ values, item.Reads (write value) value fun _ => True)
    (follows : List Char → Prop) :
    Reads (Decoder.manyUntil closing item)
      (values.flatMap write ++ closing.toList) values follows := by
  intro rest following
  rw [StateT.run, List.append_assoc]
  induction values with
  | nil =>
      rw [List.flatMap_nil, List.nil_append, Decoder.manyUntil]
      simp only [run_literal_append]
  | cons first others inductionHypothesis =>
      have positive := List.length_pos_iff.mpr (nonempty first List.mem_cons_self)
      have later := inductionHypothesis
        (fun value member => nonempty value (List.mem_cons_of_mem first member))
        (fun value member => unclosed value (List.mem_cons_of_mem first member))
        (fun value member => reads value (List.mem_cons_of_mem first member))
      rw [List.flatMap_cons, List.append_assoc, Decoder.manyUntil]
      simp only [run_literal_eq_none (unclosed first List.mem_cons_self _),
        reads first List.mem_cons_self _ trivial]
      rw [dif_pos (by simp only [List.length_append]; omega), later]
      rfl

/-! ## Numbers -/

/-- Take a run of digits off, of which there has to be one. -/
def natural :
    Decoder Nat :=
  fun text =>
    (natural? (text.takeWhile Char.isDigit)).map fun value => (value, text.dropWhile Char.isDigit)

theorem run_natural
    (text : List Char) :
    natural.run text =
      (natural? (text.takeWhile Char.isDigit)).map fun value =>
        (value, text.dropWhile Char.isDigit) :=
  rfl

theorem reads_natural
    (value : Nat) :
    natural.Reads (Nat.toDigits 10 value) value NoDigit := by
  intro rest stops
  obtain ⟨-, digits, -⟩ := natural?_eq_some_iff.mp (natural?_toDigits value)
  have parts := takeWhile_append_of_stops (List.all_eq_true.mp digits) stops
  rw [run_natural, parts.1, parts.2, natural?_toDigits, Option.map_some]

/-- Take a run of digits off, for a number of which the sign is known. -/
def magnitude
    (negative : Bool) :
    Decoder Int := do
  let value ← natural
  return if negative then -(value : Int) else value

theorem reads_magnitude
    (negative : Bool)
    (value : Nat) :
    (magnitude negative).Reads (Nat.toDigits 10 value)
      (if negative then -(value : Int) else value) NoDigit :=
  (reads_natural value).map _

/-- Take a number off that has a minus if it is negative. -/
def integer :
    Decoder Int :=
  (do literal "-"; magnitude true) <|> magnitude false

/-- Take the signed suffix of a number off, which is empty for zero. -/
def suffix :
    Decoder Int :=
  (do literal "-"; magnitude true) <|> (do literal "+"; magnitude false) <|> pure 0

/-- A number without a sign does not start with a minus. -/
theorem not_minus_toDigits
    (value : Nat)
    (rest : List Char) :
    ¬ "-".toList <+: Nat.toDigits 10 value ++ rest := by
  obtain ⟨nonempty, digits, -⟩ := natural?_eq_some_iff.mp (natural?_toDigits value)
  obtain ⟨first, others, shape⟩ := List.exists_cons_of_ne_nil nonempty
  rintro ⟨after, text⟩
  rw [shape, List.all_cons, Bool.and_eq_true] at digits
  rw [shape] at text
  cases text
  cases digits.1

/-- A number is written as its magnitude, with a minus in front of it if it is negative. -/
theorem toList_toString_cases
    (value : Int) :
    (∃ magnitude : Nat,
        value = magnitude ∧ (toString value).toList = Nat.toDigits 10 magnitude) ∨
      ∃ magnitude : Nat,
        value = -(magnitude : Int) ∧
          (toString value).toList = "-".toList ++ Nat.toDigits 10 magnitude := by
  cases value with
  | ofNat magnitude =>
      left
      exact ⟨magnitude, rfl, Nat.toList_repr⟩
  | negSucc before =>
      right
      refine ⟨before + 1, rfl, ?_⟩
      have text : toString (Int.negSucc before) = "-" ++ Nat.repr (before + 1) := rfl
      rw [text, String.toList_append, Nat.toList_repr]

theorem reads_integer
    (value : Int) :
    integer.Reads (toString value).toList value NoDigit := by
  rcases toList_toString_cases value with ⟨magnitude, rfl, text⟩ | ⟨magnitude, rfl, text⟩
  · rw [text]
    refine .orElse_right (fun rest _ => ?_) (reads_magnitude false magnitude)
    exact run_literal_bind_eq_none (not_minus_toDigits magnitude rest)
  · rw [text]
    exact (Reads.literal (reads_magnitude true magnitude)).orElse_left

theorem reads_suffix
    (value : Int) :
    suffix.Reads (signedSuffix value).toList value NoNumber := by
  have digits : ∀ negative magnitude,
      (Decoder.magnitude negative).Reads (Nat.toDigits 10 magnitude)
        (if negative then -(magnitude : Int) else magnitude) NoNumber :=
    fun negative magnitude => (reads_magnitude negative magnitude).mono fun _ => NoNumber.noDigit
  rcases Notation.signedSuffix_cases value with
    ⟨rfl, text⟩ | ⟨magnitude, rfl, text⟩ | ⟨magnitude, rfl, text⟩
  · rw [text]
    refine .orElse_right (fun rest ends => ?_) (.orElse_right (fun rest ends => ?_) (.pure 0 _))
    · apply run_literal_bind_eq_none
      rintro ⟨after, rfl⟩
      exact (ends '-' rfl).2.2 rfl
    · apply run_literal_bind_eq_none
      rintro ⟨after, rfl⟩
      exact (ends '+' rfl).2.1 rfl
  · rw [text, String.toList_append, toList_toString_nat]
    refine .orElse_right (fun rest _ => ?_) (Reads.literal (digits false magnitude)).orElse_left
    apply run_literal_bind_eq_none
    rintro ⟨after, text⟩
    cases text
  · rw [text, String.toList_append, toList_toString_nat]
    exact (Reads.literal (digits true magnitude)).orElse_left

/-- A signed suffix goes on no run of digits in front of it. -/
theorem noDigit_signedSuffix_append
    (value : Int)
    {rest : List Char}
    (ends : NoNumber rest) :
    NoDigit ((signedSuffix value).toList ++ rest) := by
  rcases Notation.signedSuffix_cases value with ⟨-, text⟩ | ⟨_, -, text⟩ | ⟨_, -, text⟩
  · rw [text]
    exact ends.noDigit
  · rw [text, String.toList_append]
    rintro char ⟨⟩
    rfl
  · rw [text, String.toList_append]
    rintro char ⟨⟩
    rfl

end Decoder

end DiceCup.Text
