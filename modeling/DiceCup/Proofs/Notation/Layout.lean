import DiceCup.Proofs.Notation.Moving
import DiceCup.Proofs.Notation.Simulation

/-!
# Layout does not matter

Two notations with the same tokens stand for the same expressions, or are refused for the same
cause at the same token: blanks only move the places, and the case of letters does not even do that.

The cursors of the two runs are compared by the tokens in front of them (`Level`).  Each read keeps
that, so the simulation of the parser applies.
-/

namespace DiceCup.Notation

open Text

/-- Two places at which the same token starts, counted from the front, or two ends of text. -/
def SamePlace
    (left right : List Char)
    (first second : Nat) :
    Prop :=
  (∃ index : Nat,
      (placedTokens 0 left)[index]?.map Prod.fst = some first ∧
        (placedTokens 0 right)[index]?.map Prod.fst = some second) ∨
    first = byteLength left ∧ second = byteLength right

/-- Refusals that say the same, their places apart; texts that they quote have the same tokens. -/
def SameCause :
    NotationError → NotationError → Prop
  | .missing _ first, .missing _ second => first = second
  | .trailing _ first, .trailing _ second => tokens first.toList = tokens second.toList
  | .tooMany _ first, .tooMany _ second => first = second
  | .invalidDie _ first, .invalidDie _ second => first = second
  | _, _ => False

/-! ## Cursors at the same token -/

/-- A cursor between two tokens of a text. -/
structure Within
    (text : List Char)
    (cursor : Cursor) :
    Prop where
  suffix : cursor.ahead <:+ placedTokens 0 text
  extent : cursor.extent = byteLength text

namespace Within

variable
  {text : List Char}
  {cursor next : Cursor}

theorem ofText
    (text : List Char) :
    Within text (Cursor.ofText text) where
  suffix := List.suffix_refl _
  extent := Nat.zero_add _

/-- A read takes the next token or none, and stays in the text. -/
theorem read
    (within : Within text cursor)
    (found : Bool)
    (ahead : next.ahead = if found then cursor.ahead.tail else cursor.ahead)
    (advances : cursor.Advances next) :
    Within text next where
  suffix := by
    rw [ahead]
    cases found with
    | false => exact within.suffix
    | true => exact (List.tail_suffix cursor.ahead).trans within.suffix
  extent := advances.extent_eq.trans within.extent

/-- Behind the blanks a cursor is at the first token that it has not passed, or at the end. -/
theorem place
    (within : Within text cursor) :
    (placedTokens 0 text)[(placedTokens 0 text).length - cursor.ahead.length]?.map Prod.fst =
        some cursor.skipBlanks.offset ∨
      cursor.ahead = [] ∧ cursor.skipBlanks.offset = byteLength text := by
  obtain ⟨before, whole⟩ := within.suffix
  have index : (placedTokens 0 text).length - cursor.ahead.length = before.length := by
    rw [← whole, List.length_append]
    omega
  have first : (placedTokens 0 text)[before.length]? = cursor.ahead.head? := by
    rw [← whole, List.getElem?_append_right (Nat.le_refl _), Nat.sub_self,
      List.head?_eq_getElem?]
  rcases cursor.offset_skipBlanks with starts | ⟨nothing, finished⟩
  · left
    rw [index, first, starts]
  · right
    have ends := (Cursor.Advances.skipBlanks cursor).extent_eq.trans within.extent
    rw [Cursor.extent, finished] at ends
    exact ⟨nothing, ends⟩

end Within

/-- Two cursors that have the same tokens in front of them, each in a text of its own. -/
structure Level
    (leftText rightText : List Char)
    (left right : Cursor) :
    Prop where
  same : tokens left.rest = tokens right.rest
  left : Within leftText left
  right : Within rightText right

namespace Level

variable
  {leftText rightText : List Char}
  {left right : Cursor}

theorem length_ahead
    (level : Level leftText rightText left right) :
    left.ahead.length = right.ahead.length := by
  have same := congrArg List.length level.same
  rw [← Cursor.map_snd_ahead, ← Cursor.map_snd_ahead] at same
  simpa only [List.length_map] using same

theorem skipBlanks
    (level : Level leftText rightText left right) :
    Level leftText rightText left.skipBlanks right.skipBlanks where
  same := by
    rw [Cursor.tokens_skipBlanks, Cursor.tokens_skipBlanks, level.same]
  left :=
    level.left.read false left.ahead_skipBlanks (.skipBlanks left)
  right :=
    level.right.read false right.ahead_skipBlanks (.skipBlanks right)

theorem number
    (level : Level leftText rightText left right) :
    left.number.1 = right.number.1 ∧
      Level leftText rightText left.number.2 right.number.2 := by
  obtain ⟨value, same⟩ := Cursor.number_of_tokens_eq level.same
  refine ⟨value, same, ?_, ?_⟩
  · exact level.left.read _ left.ahead_number (.number left)
  · exact level.right.read _ right.ahead_number (.number right)

theorem literal
    (level : Level leftText rightText left right)
    {mark : Char}
    (isMark : Cursor.IsMark mark) :
    (left.literal [mark]).1 = (right.literal [mark]).1 ∧
      Level leftText rightText (left.literal [mark]).2 (right.literal [mark]).2 := by
  obtain ⟨found, same⟩ := Cursor.literal_of_tokens_eq isMark level.same
  refine ⟨found, same, ?_, ?_⟩
  · exact level.left.read _ (left.ahead_literal isMark) (.literal [mark] left)
  · exact level.right.read _ (right.ahead_literal isMark) (.literal [mark] right)

/-- Cursors at the same token of two texts with the same tokens are at the same place. -/
theorem place
    (level : Level leftText rightText left right)
    (sameText : tokens leftText = tokens rightText) :
    SamePlace leftText rightText left.skipBlanks.offset right.skipBlanks.offset := by
  have wholes : (placedTokens 0 leftText).length = (placedTokens 0 rightText).length := by
    simpa only [tokens, List.length_map] using congrArg List.length sameText
  have leftPlace := level.left.place
  have rightPlace := level.right.place
  rw [← wholes, ← level.length_ahead] at rightPlace
  rcases leftPlace with leftStarts | ⟨leftNothing, leftEnds⟩
  · rcases rightPlace with rightStarts | ⟨rightNothing, rightEnds⟩
    · exact Or.inl ⟨_, leftStarts, rightStarts⟩
    · have leftNothing : left.ahead.length = 0 := by
        rw [level.length_ahead, rightNothing, List.length_nil]
      rw [leftNothing, Nat.sub_zero, List.getElem?_eq_none (Nat.le_refl _)] at leftStarts
      cases leftStarts
  · rcases rightPlace with rightStarts | ⟨rightNothing, rightEnds⟩
    · rw [leftNothing, List.length_nil, Nat.sub_zero, wholes,
        List.getElem?_eq_none (Nat.le_refl _)] at rightStarts
      cases rightStarts
    · exact Or.inr ⟨leftEnds, rightEnds⟩

/-- Every read keeps two cursors at the same token. -/
theorem simulation
    (sameText : tokens leftText = tokens rightText) :
    Simulation (Level leftText rightText) (SamePlace leftText rightText) where
  place level := level.place sameText
  skipBlanks level := level.skipBlanks
  number level := level.number
  literal _ member level := level.literal (isMark_of_mem_groupMarks member)

theorem ofText
    (sameText : tokens leftText = tokens rightText) :
    Level leftText rightText (Cursor.ofText leftText) (Cursor.ofText rightText) where
  same := sameText
  left := Within.ofText leftText
  right := Within.ofText rightText

/-- Nothing but blanks is left of the one text if nothing but blanks is left of the other. -/
theorem exhausted_iff
    (level : Level leftText rightText left right) :
    left.skipBlanks.rest = [] ↔ right.skipBlanks.rest = [] := by
  rw [Cursor.rest_skipBlanks_eq_nil_iff, Cursor.rest_skipBlanks_eq_nil_iff, level.same]

end Level

/-- Refusals that differ in their place only are refusals of the same cause. -/
theorem Moved.sameCause
    {Places : Nat → Nat → Prop}
    {left right : NotationError}
    (moved : Moved Places left right) :
    SameCause left right := by
  cases moved with
  | missing wanted places => exact rfl
  | tooMany quantity places => exact rfl
  | invalidDie fault places => exact rfl

/--
Two notations with the same tokens stand for the same expressions, or they are refused for the same
cause at the same token.
-/
theorem parse_of_tokens_eq
    (left right : String)
    (same : tokens (lowered left) = tokens (lowered right)) :
    (∃ expressions : List Expression,
        parse left = .ok expressions ∧ parse right = .ok expressions) ∨
      ∃ first second : NotationError,
        parse left = .error first ∧ parse right = .error second ∧
          SameCause first second ∧
          SamePlace (lowered left) (lowered right) first.position second.position := by
  have simulation := Level.simulation same
  have agree :=
    simulation.groups (fun level => level.literal (by decide))
      (Level.ofText same) []
  rw [parse_eq, parse_eq]
  cases leftRun : groups [] (Cursor.ofText (lowered left)) with
  | error error =>
      rw [leftRun] at agree
      obtain ⟨other, rightRun, moved⟩ := agree.of_error
      rw [rightRun, conclude, conclude]
      exact Or.inr ⟨error, other, rfl, rfl, moved.sameCause, moved.position⟩
  | ok reading =>
      rcases reading with ⟨expressions, next⟩
      rw [leftRun] at agree
      obtain ⟨nextRight, rightRun, level⟩ := agree.of_ok
      rw [rightRun, conclude, conclude]
      simp only [level.exhausted_iff]
      split
      · exact Or.inl ⟨expressions, rfl, rfl⟩
      · right
        refine ⟨_, _, rfl, rfl, ?_, simulation.place level⟩
        simpa only [SameCause, String.toList_ofList] using level.skipBlanks.same

/-- A sign without a number is refused at the same token, wherever blanks stand. -/
theorem parse_of_tokens_eq_lone_sign :
    tokens (lowered " 4 D06+ xyzzy") = tokens (lowered "4d06\t+XYZZY  ") ∧
      ((∃ expressions : List Expression,
          parse " 4 D06+ xyzzy" = .ok expressions ∧
            parse "4d06\t+XYZZY  " = .ok expressions) ∨
        ∃ first second : NotationError,
          parse " 4 D06+ xyzzy" = .error first ∧
            parse "4d06\t+XYZZY  " = .error second ∧
            SameCause first second ∧
            SamePlace (lowered " 4 D06+ xyzzy") (lowered "4d06\t+XYZZY  ")
              first.position second.position) :=
  ⟨by decide +kernel, parse_of_tokens_eq _ _ (by decide +kernel)⟩

end DiceCup.Notation
