import DiceCup.Notation.Parser
import DiceCup.Proofs.Text.Quoting

/-!
# What error messages tell

A message names its error: its kind, its place and all that belongs to it are read back from the
message (`NotationError.decode_message`).  The kinds start with different words, a place ends where
its digits end, and what is quoted of the text ends at the first quote that is not spelled, so nothing
that stands in the text can pass for a part of the message.

For the same reason a message is one line without control characters, whatever the text holds.
-/

namespace DiceCup

open Text

/-! ## Reading messages back -/

/-- Take the name of a missing part off. -/
def Wanted.decoder :
    Decoder Wanted :=
  .oneOf [(dieMark.describe, pure .dieMark), (sides.describe, pure .sides)]

theorem Wanted.reads_decoder
    (wanted : Wanted)
    (follows : List Char → Prop) :
    decoder.Reads wanted.describe.toList wanted follows := by
  rw [← List.append_nil wanted.describe.toList]
  refine .oneOf (by decide) ?_ (.pure wanted follows)
  cases wanted <;> simp

theorem Wanted.oneLine_describe
    (wanted : Wanted) :
    OneLine wanted.describe.toList := by
  cases wanted <;> exact oneLine_of_ascii rfl

/-- Take the name of a quantity off. -/
def Quantity.decoder :
    Decoder Quantity :=
  .oneOf [
    (expressions.describe, pure .expressions),
    (dice.describe, pure .dice),
    (terms.describe, pure .terms)]

theorem Quantity.reads_decoder
    (quantity : Quantity)
    (follows : List Char → Prop) :
    decoder.Reads quantity.describe.toList quantity follows := by
  rw [← List.append_nil quantity.describe.toList]
  refine .oneOf (by decide) ?_ (.pure quantity follows)
  cases quantity <;> simp

theorem Quantity.oneLine_describe
    (quantity : Quantity) :
    OneLine quantity.describe.toList := by
  cases quantity <;> exact oneLine_of_ascii rfl

/-- Take a number off that fits a word of 32 bits. -/
def wordDecoder :
    Decoder UInt32 := do
  let value ← Decoder.natural
  toUInt32? value

theorem reads_wordDecoder
    (word : UInt32) :
    wordDecoder.Reads (Nat.toDigits 10 word.toNat) word NoDigit :=
  (Decoder.reads_natural word.toNat).check (toUInt32?_eq_some_iff.mpr rfl)

namespace Term.Fault

/-- What is told about the kinds of faults, and what follows it. -/
def messages : List (String × Decoder Fault) := [
  (noDice.message, pure .noDice),
  ("number of sides must be greater than 1, got ", do
    let sides ← wordDecoder
    return .tooFewSides sides),
  ("at most ", do
    Decoder.literal (toString maxDice)
    Decoder.literal " dice can be rolled at once, got "
    let count ← wordDecoder
    return .tooManyDice count)]

/-- Take what is told about a fault off. -/
def decoder :
    Decoder Fault :=
  .oneOf messages

/-- The parts that a message is put together from. -/
theorem toList_message
    (fault : Fault) :
    fault.message.toList =
      match fault with
      | .noDice => noDice.message.toList
      | .tooFewSides sides =>
        "number of sides must be greater than 1, got ".toList ++ Nat.toDigits 10 sides.toNat
      | .tooManyDice count =>
        "at most ".toList ++ ((toString maxDice).toList ++
          (" dice can be rolled at once, got ".toList ++ Nat.toDigits 10 count.toNat)) := by
  cases fault with
  | noDice => rfl
  | tooFewSides sides =>
      have text :
          (tooFewSides sides).message =
            "number of sides must be greater than 1, got " ++ toString sides.toNat :=
        rfl
      rw [text, String.toList_append, toList_toString_nat]
  | tooManyDice count =>
      have text :
          (tooManyDice count).message =
            "at most " ++ toString maxDice ++ " dice can be rolled at once, got " ++
              toString count.toNat :=
        rfl
      simp only [text, String.toList_append, List.append_assoc, toList_toString_nat]

theorem reads_decoder
    (fault : Fault) :
    decoder.Reads fault.message.toList fault NoDigit := by
  have apart : Decoder.Apart (messages.map Prod.fst) := by
    decide
  rw [toList_message]
  cases fault with
  | noDice =>
      rw [← List.append_nil noDice.message.toList]
      exact .oneOf apart List.mem_cons_self (.pure _ _)
  | tooFewSides sides =>
      exact .oneOf apart (.tail _ List.mem_cons_self) ((reads_wordDecoder sides).map _)
  | tooManyDice count =>
      exact .oneOf apart (.tail _ (.tail _ List.mem_cons_self))
        (.literal (.literal ((reads_wordDecoder count).map _)))

theorem oneLine_message
    (fault : Fault) :
    OneLine fault.message.toList := by
  rw [toList_message]
  cases fault with
  | noDice => exact oneLine_of_ascii rfl
  | tooFewSides sides => exact .append (oneLine_of_ascii rfl) (oneLine_toDigits sides.toNat)
  | tooManyDice count =>
      have limit : OneLine (toString maxDice).toList := by
        rw [toList_toString_nat]
        exact oneLine_toDigits maxDice
      exact .append (oneLine_of_ascii rfl)
        (.append limit (.append (oneLine_of_ascii rfl) (oneLine_toDigits count.toNat)))

end Term.Fault

namespace NotationError

/-- How the messages of the kinds of errors start, and what follows. -/
def messages : List (String × Decoder NotationError) := [
  ("expected ", do
    let wanted ← Wanted.decoder
    Decoder.literal " at position "
    let position ← Decoder.natural
    return .missing position wanted),
  ("unexpected input ", do
    let found ← Decoder.quoted
    Decoder.literal " at position "
    let position ← Decoder.natural
    return .trailing position found),
  ("too many ", do
    let quantity ← Quantity.decoder
    Decoder.literal " at position "
    let position ← Decoder.natural
    Decoder.literal ", at most "
    Decoder.literal (toString quantity.limit)
    Decoder.literal " allowed"
    return .tooMany position quantity),
  ("invalid die at position ", do
    let position ← Decoder.natural
    Decoder.literal ": "
    let fault ← Term.Fault.decoder
    return .invalidDie position fault)]

/-- Take a message off. -/
def decoder :
    Decoder NotationError :=
  .oneOf messages

/-- The parts that a message is put together from. -/
theorem toList_message
    (error : NotationError) :
    error.message.toList =
      match error with
      | .missing position wanted =>
        "expected ".toList ++ (wanted.describe.toList ++
          (" at position ".toList ++ Nat.toDigits 10 position))
      | .trailing position found =>
        "unexpected input ".toList ++ ((quote found).toList ++
          (" at position ".toList ++ Nat.toDigits 10 position))
      | .tooMany position quantity =>
        "too many ".toList ++ (quantity.describe.toList ++
          (" at position ".toList ++ (Nat.toDigits 10 position ++
            (", at most ".toList ++ ((toString quantity.limit).toList ++ " allowed".toList)))))
      | .invalidDie position fault =>
        "invalid die at position ".toList ++ (Nat.toDigits 10 position ++
          (": ".toList ++ fault.message.toList)) := by
  cases error with
  | missing position wanted =>
      have text :
          (missing position wanted).message =
            "expected " ++ wanted.describe ++ " at position " ++ toString position :=
        rfl
      simp only [text, String.toList_append, List.append_assoc, toList_toString_nat]
  | trailing position found =>
      have text :
          (trailing position found).message =
            "unexpected input " ++ quote found ++ " at position " ++ toString position :=
        rfl
      simp only [text, String.toList_append, List.append_assoc, toList_toString_nat]
  | tooMany position quantity =>
      have text :
          (tooMany position quantity).message =
            "too many " ++ quantity.describe ++ " at position " ++ toString position ++
              ", at most " ++ toString quantity.limit ++ " allowed" :=
        rfl
      simp only [text, String.toList_append, List.append_assoc, toList_toString_nat]
  | invalidDie position fault =>
      have text :
          (invalidDie position fault).message =
            "invalid die at position " ++ toString position ++ ": " ++ fault.message :=
        rfl
      simp only [text, String.toList_append, List.append_assoc, toList_toString_nat]

/-- Every message is read back, unless a digit is put behind it. -/
theorem reads_decoder
    (error : NotationError) :
    decoder.Reads error.message.toList error NoDigit := by
  have apart : Decoder.Apart (messages.map Prod.fst) := by
    decide
  rw [toList_message]
  cases error with
  | missing position wanted =>
      exact .oneOf apart List.mem_cons_self
        (.bind (wanted.reads_decoder fun _ => True) (fun _ _ => trivial)
          (.literal ((Decoder.reads_natural position).map _)))
  | trailing position found =>
      exact .oneOf apart (.tail _ List.mem_cons_self)
        (.bind (Decoder.reads_quoted found fun _ => True) (fun _ _ => trivial)
          (.literal ((Decoder.reads_natural position).map _)))
  | tooMany position quantity =>
      rw [← List.append_nil " allowed".toList]
      refine .oneOf apart (.tail _ (.tail _ List.mem_cons_self))
        (.bind (quantity.reads_decoder fun _ => True) (fun _ _ => trivial)
          (.literal (.bind (Decoder.reads_natural position) ?_
            (.literal (.literal (.literal (.pure _ _)))))))
      rintro rest - char ⟨⟩
      rfl
  | invalidDie position fault =>
      refine .oneOf apart (.tail _ (.tail _ (.tail _ List.mem_cons_self)))
        (.bind (Decoder.reads_natural position) ?_ (.literal (fault.reads_decoder.map _)))
      rintro rest - char ⟨⟩
      rfl

/-- A message is decoded as its error. -/
theorem decode_message
    (error : NotationError) :
    decoder.decode error.message = some error := by
  apply error.reads_decoder.decode
  rintro char ⟨⟩

/-! ## Messages on one line -/

/-- Whatever is quoted in it, a message is one line. -/
theorem oneLine_message
    (error : NotationError) :
    OneLine error.message.toList := by
  have place : OneLine " at position ".toList := oneLine_of_ascii rfl
  rw [toList_message]
  cases error with
  | missing position wanted =>
      exact .append (oneLine_of_ascii rfl)
        (.append wanted.oneLine_describe (.append place (oneLine_toDigits position)))
  | trailing position found =>
      exact .append (oneLine_of_ascii rfl)
        (.append (oneLine_quote found) (.append place (oneLine_toDigits position)))
  | tooMany position quantity =>
      have limit : OneLine (toString quantity.limit).toList := by
        rw [toList_toString_nat]
        exact oneLine_toDigits quantity.limit
      exact .append (oneLine_of_ascii rfl)
        (.append quantity.oneLine_describe (.append place (.append (oneLine_toDigits position)
          (.append (oneLine_of_ascii rfl) (.append limit (oneLine_of_ascii rfl))))))
  | invalidDie position fault =>
      exact .append (oneLine_of_ascii rfl) (.append (oneLine_toDigits position)
        (.append (oneLine_of_ascii rfl) fault.oneLine_message))

/--
A message tells its error.  It can be read back, so that two refused notations are told the same
only if they are refused for the same reason, at the same place and with the same numbers and words;
and it is one line without control characters, whatever text it quotes.
-/
theorem message_tells
    (error other : NotationError) :
    decoder.decode error.message = some error ∧
      (error.message = other.message ↔ error = other) ∧
      ∀ char ∈ error.message.toList, ¬ IsControl char ∧ ¬ EndsLine char := by
  refine ⟨error.decode_message, ⟨?_, congrArg message⟩, error.oneLine_message⟩
  intro same
  have decoded := error.decode_message
  rw [same, other.decode_message] at decoded
  exact (Option.some.inj decoded).symm

/-- The quote, the backslash and the end of a line are spelled, and end neither text nor line. -/
example : (trailing 7 "\"\\\n").message = "unexpected input \"\\\"\\\\\\n\" at position 7" := by
  decide +kernel

end NotationError

end DiceCup
