import DiceCup.Session.Basic

/-!
# What entries ask for

The notation of an entry is the text behind its last equals sign, or the whole entry
(`NotationOf`).  An entry asks for the expressions that its notation stands for, below the name in
front of that sign; if its notation stands for none because it is refused, the entry asks for
nothing and there is a line that reports it.
-/

namespace DiceCup

/-! ## The notation of an entry -/

/-- A text is the notation of an entry: it stands behind the last equals sign, if there is one. -/
structure NotationOf
    (written text : String) :
    Prop where
  unmarked : '=' ∉ text.toList
  ends : written = text ∨ ∃ name : String, written = name ++ "=" ++ text

namespace Entry

/-- An entry without an equals sign has no name. -/
theorem ofString_of_unmarked
    {text : String}
    (unmarked : '=' ∉ text.toList) :
    ofString text = { name := none, text } := by
  rw [ofString, Text.splitLast_eq_none_iff.mpr unmarked]

/-- An entry is cut at its last equals sign. -/
theorem ofString_of_marked
    {text : String}
    (unmarked : '=' ∉ text.toList)
    (name : String) :
    ofString (name ++ "=" ++ text) =
      { name := some (String.ofList (Text.trimBlanks name.toList)), text } := by
  have parts : (name ++ "=" ++ text).toList = name.toList ++ '=' :: text.toList := by
    simp
  rw [ofString, Text.splitLast_eq_some_iff.mpr ⟨parts, unmarked⟩]
  simp

end Entry

/-- Every entry has one notation. -/
theorem notationOf_iff
    {written text : String} :
    NotationOf written text ↔ (Entry.ofString written).text = text := by
  constructor
  · rintro ⟨unmarked, rfl | ⟨name, rfl⟩⟩
    · rw [Entry.ofString_of_unmarked unmarked]
    · rw [Entry.ofString_of_marked unmarked]
  · rintro rfl
    cases cut : Text.splitLast '=' written.toList with
    | none =>
        have unmarked := Text.splitLast_eq_none_iff.mp cut
        rw [Entry.ofString_of_unmarked unmarked]
        exact ⟨unmarked, Or.inl rfl⟩
    | some parts =>
        obtain ⟨whole, unmarked⟩ := Text.splitLast_eq_some_iff.mp cut
        have joined : written = String.ofList parts.1 ++ "=" ++ String.ofList parts.2 := by
          apply String.toList_injective
          simp [whole]
        have last : '=' ∉ (String.ofList parts.2).toList := by
          rwa [String.toList_ofList]
        rw [joined, Entry.ofString_of_marked last]
        exact ⟨last, Or.inr ⟨_, rfl⟩⟩

/-! ## Requests -/

/-- What an entry asks for: expressions to be rolled, below a name if there is one. -/
structure Request where
  name : Option String
  expressions : List Expression
  deriving DecidableEq

/-- What an entry asks for, if its notation stands for expressions. -/
def Request.ofEntry?
    (written : String) :
    Option Request :=
  match parse (Entry.ofString written).text with
  | .error _ => none
  | .ok expressions => some { name := (Entry.ofString written).name, expressions }

theorem Request.ofEntry?_eq_none_iff
    {written : String} :
    Request.ofEntry? written = none ↔
      ∃ error : NotationError, parse (Entry.ofString written).text = .error error := by
  unfold Request.ofEntry?
  split
  next error refused => simp [refused]
  next expressions parsed => simp [parsed]

namespace Entry

/-- Whether an entry asks for something to be rolled. -/
def readable
    (written : String) :
    Bool :=
  (Request.ofEntry? written).isSome

theorem readable_iff
    {written : String} :
    readable written = true ↔
      ∃ (text : String) (expressions : List Expression),
        NotationOf written text ∧ parse text = .ok expressions := by
  simp only [notationOf_iff, exists_and_left, exists_eq_left', readable, Request.ofEntry?]
  split
  next error refused => simp [refused]
  next expressions parsed => simp [parsed]

/-- The line that reports an entry whose notation is refused. -/
def refusal
    (text : String)
    (error : NotationError) :
    String :=
  "Invalid dice string " ++ text ++ ": " ++ error.message

end Entry

end DiceCup
