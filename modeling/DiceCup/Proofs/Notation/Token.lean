import DiceCup.Text.Blank
import DiceCup.Text.Extent

/-!
# The tokens of a notation

A notation is made of tokens: longest runs of ASCII digits, and single other characters that are not
blank.  Blanks stand between tokens and belong to none.

`placedTokens` lists the tokens of a text with the places at which they start, and `tokens` forgets
the places.  The main statement says that two texts that meet outside a run of digits have their
tokens one after another (`placedTokens_append`).
-/

namespace DiceCup.Notation

open Text

/-- The smallest part of a notation that has a meaning. -/
inductive Token where
  /-- A longest run of ASCII digits. -/
  | digits (run : List Char)
  /-- Any other character that is not blank. -/
  | mark (char : Char)
deriving DecidableEq

-- Which characters are blank is not looked into where the equations of the recursion are made.
attribute [local irreducible] isBlank in
/-- The tokens of a text with the places they start at, where the text itself starts at `place`. -/
def placedTokens
    (place : Nat) :
    List Char → List (Nat × Token)
  | [] => []
  | first :: rest =>
    if isBlank first then
      placedTokens (place + first.utf8Size) rest
    else if first.isDigit then
      (place, .digits (first :: rest.takeWhile Char.isDigit)) ::
        placedTokens
          (place + byteLength (first :: rest.takeWhile Char.isDigit))
          (rest.dropWhile Char.isDigit)
    else
      (place, .mark first) :: placedTokens (place + first.utf8Size) rest
termination_by text => text.length
decreasing_by
  · simp
  · have shorter := (List.dropWhile_suffix Char.isDigit (l := rest)).length_le
    simp only [List.length_cons]
    omega
  · simp

/-- The tokens of a text from left to right. -/
def tokens
    (text : List Char) :
    List Token :=
  (placedTokens 0 text).map Prod.snd

/-! ## How a text starts -/

@[simp]
theorem placedTokens_nil
    (place : Nat) :
    placedTokens place [] = [] := by
  rw [placedTokens]

theorem placedTokens_blank
    {first : Char}
    (blank : isBlank first = true)
    (place : Nat)
    (rest : List Char) :
    placedTokens place (first :: rest) =
      placedTokens (place + first.utf8Size) rest := by
  rw [placedTokens, if_pos blank]

theorem placedTokens_digit
    {first : Char}
    (visible : isBlank first = false)
    (digit : first.isDigit = true)
    (place : Nat)
    (rest : List Char) :
    placedTokens place (first :: rest) =
      (place, .digits (first :: rest.takeWhile Char.isDigit)) ::
        placedTokens
          (place + byteLength (first :: rest.takeWhile Char.isDigit))
          (rest.dropWhile Char.isDigit) := by
  rw [placedTokens, if_neg (by simp [visible]), if_pos digit]

theorem placedTokens_mark
    {first : Char}
    (visible : isBlank first = false)
    (other : first.isDigit = false)
    (place : Nat)
    (rest : List Char) :
    placedTokens place (first :: rest) =
      (place, .mark first) ::
        placedTokens (place + first.utf8Size) rest := by
  rw [placedTokens, if_neg (by simp [visible]), if_neg (by simp [other])]

/-- A digit is not blank. -/
theorem isBlank_of_isDigit
    {char : Char}
    (digit : char.isDigit = true) :
    isBlank char = false := by
  have bounds : 48 ≤ char.toNat ∧ char.toNat ≤ 57 := by
    simpa [Char.isDigit, UInt32.le_iff_toNat_le] using digit
  cases blank : isBlank char with
  | false => rfl
  | true =>
      rw [isBlank_iff] at blank
      omega

/-- Where a text starts does not matter to what its tokens are. -/
@[simp]
theorem map_snd_placedTokens
    (place : Nat)
    (text : List Char) :
    (placedTokens place text).map Prod.snd = tokens text := by
  suffices anywhere : ∀ other : Nat,
      (placedTokens place text).map Prod.snd =
        (placedTokens other text).map Prod.snd from anywhere 0
  fun_induction placedTokens place text with
  | case1 => simp
  | case2 place first rest blank inductionHypothesis =>
      intro other
      rw [placedTokens_blank blank, inductionHypothesis]
  | case3 place first rest visible digit inductionHypothesis =>
      intro other
      rw [placedTokens_digit (by simpa using visible) digit, List.map_cons, List.map_cons,
        inductionHypothesis]
  | case4 place first rest visible other inductionHypothesis =>
      intro elsewhere
      rw [placedTokens_mark (by simpa using visible) (by simpa using other), List.map_cons,
        List.map_cons, inductionHypothesis]

/-- The blanks in front of a text are passed over. -/
theorem placedTokens_dropBlanks
    (place : Nat)
    (text : List Char) :
    placedTokens (place + byteLength (text.takeWhile isBlank)) (dropBlanks text) =
      placedTokens place text := by
  induction text generalizing place with
  | nil => simp [dropBlanks]
  | cons first rest inductionHypothesis =>
      cases blank : isBlank first with
      | false => simp [dropBlanks, blank]
      | true =>
          have passed := inductionHypothesis (place + first.utf8Size)
          rw [placedTokens_blank blank, ← passed]
          simp [dropBlanks, blank, Nat.add_assoc]

/-- Nothing but blanks holds no token. -/
theorem placedTokens_eq_nil_iff
    {place : Nat}
    {text : List Char} :
    placedTokens place text = [] ↔ dropBlanks text = [] := by
  fun_induction placedTokens place text with
  | case1 => simp [dropBlanks]
  | case2 place first rest blank inductionHypothesis =>
      rw [inductionHypothesis]
      simp [dropBlanks, blank]
  | case3 place first rest visible digit inductionHypothesis =>
      simp [dropBlanks, visible]
  | case4 place first rest visible other inductionHypothesis =>
      simp [dropBlanks, visible]

/-! ## Texts one after another -/

/-- No run of digits goes on from the first text into the second. -/
def Apart
    (left right : List Char) :
    Prop :=
  ∀ last ∈ left.getLast?, last.isDigit = true →
    ∀ next ∈ right.head?, next.isDigit = false

theorem Apart.tail
    {first : Char}
    {rest right : List Char}
    (apart : Apart (first :: rest) right) :
    Apart rest right := by
  cases rest with
  | nil =>
      intro last member
      cases member
  | cons second others =>
      intro last member
      exact apart last (by simpa using member)

/-- A run of digits that a text starts with ends inside the text. -/
theorem Apart.takeWhile_append
    {first : Char}
    {rest right : List Char}
    (apart : Apart (first :: rest) right)
    (digit : first.isDigit = true) :
    (rest ++ right).takeWhile Char.isDigit = rest.takeWhile Char.isDigit ∧
      (rest ++ right).dropWhile Char.isDigit =
        rest.dropWhile Char.isDigit ++ right := by
  induction rest generalizing first with
  | nil =>
      have stops := apart first rfl digit
      cases right with
      | nil => simp
      | cons next others =>
          have other : next.isDigit = false := stops next rfl
          simp [other]
  | cons second others inductionHypothesis =>
      cases shape : second.isDigit with
      | false => simp [shape]
      | true =>
          have inside := inductionHypothesis apart.tail shape
          simp [shape, inside.1, inside.2]

theorem Apart.dropWhile
    {text right : List Char}
    (apart : Apart text right) :
    Apart (text.dropWhile Char.isDigit) right := by
  induction text with
  | nil => exact apart
  | cons first rest inductionHypothesis =>
      cases digit : first.isDigit with
      | false => simpa [digit] using apart
      | true => simpa [digit] using inductionHypothesis apart.tail

theorem Apart.append
    {first second third : List Char}
    (outer : Apart first (second ++ third))
    (inner : Apart second third) :
    Apart (first ++ second) third := by
  cases second with
  | nil =>
      rw [List.append_nil]
      exact outer
  | cons char rest =>
      intro last member
      have behind : (first ++ char :: rest).getLast? = (char :: rest).getLast? := by
        simp [List.getLast?_append, List.getLast?_cons]
      rw [behind] at member
      exact inner last member

/-- Texts that meet outside a run of digits have their tokens one after another. -/
theorem placedTokens_append
    {left right : List Char}
    (apart : Apart left right)
    (place : Nat) :
    placedTokens place (left ++ right) =
      placedTokens place left ++ placedTokens (place + byteLength left) right := by
  fun_induction placedTokens place left with
  | case1 => simp
  | case2 place first rest blank inductionHypothesis =>
      rw [List.cons_append, placedTokens_blank blank, inductionHypothesis apart.tail]
      simp [Nat.add_assoc]
  | case3 place first rest visible digit inductionHypothesis =>
      have inside := apart.takeWhile_append digit
      have parts := byteLength_takeWhile_add_dropWhile Char.isDigit rest
      rw [List.cons_append, placedTokens_digit (by simpa using visible) digit, inside.1,
        inside.2, inductionHypothesis apart.tail.dropWhile]
      simp only [byteLength_cons, List.cons_append, ← parts, Nat.add_assoc]
  | case4 place first rest visible other inductionHypothesis =>
      rw [List.cons_append, placedTokens_mark (by simpa using visible) (by simpa using other),
        inductionHypothesis apart.tail]
      simp [Nat.add_assoc]

theorem tokens_append
    {left right : List Char}
    (apart : Apart left right) :
    tokens (left ++ right) = tokens left ++ tokens right := by
  rw [tokens, placedTokens_append apart, List.map_append, map_snd_placedTokens,
    map_snd_placedTokens]

@[simp]
theorem tokens_nil :
    tokens [] = [] := by
  simp [tokens]

@[simp]
theorem tokens_dropBlanks
    (text : List Char) :
    tokens (dropBlanks text) = tokens text := by
  rw [← map_snd_placedTokens (0 + byteLength (text.takeWhile isBlank)),
    placedTokens_dropBlanks, map_snd_placedTokens]

/-- A blank in front changes no token. -/
theorem tokens_blank
    {first : Char}
    (blank : isBlank first = true)
    (rest : List Char) :
    tokens (first :: rest) = tokens rest := by
  rw [tokens, placedTokens_blank blank, map_snd_placedTokens]

/-- A character that is neither blank nor a digit is a token. -/
theorem tokens_mark
    {first : Char}
    (visible : isBlank first = false)
    (other : first.isDigit = false)
    (rest : List Char) :
    tokens (first :: rest) = .mark first :: tokens rest := by
  rw [tokens, placedTokens_mark visible other, List.map_cons, map_snd_placedTokens]

/-- A text of digits is one token. -/
theorem tokens_digits
    {run : List Char}
    (nonempty : run ≠ [])
    (digits : run.all Char.isDigit = true) :
    tokens run = [.digits run] := by
  cases run with
  | nil => exact (nonempty rfl).elim
  | cons first rest =>
      rw [List.all_cons, Bool.and_eq_true] at digits
      have whole : (rest ++ []).takeWhile Char.isDigit = rest ++ [] :=
        List.takeWhile_append_of_pos (List.all_eq_true.mp digits.2)
      have nothing : (rest ++ []).dropWhile Char.isDigit = [] :=
        List.dropWhile_append_of_pos (List.all_eq_true.mp digits.2)
      rw [List.append_nil] at whole nothing
      rw [tokens, placedTokens_digit (isBlank_of_isDigit digits.1) digits.1, whole, nothing]
      simp

end DiceCup.Notation
