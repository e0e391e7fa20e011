import DiceCup.Proofs.Notation.Moving
import DiceCup.Proofs.Notation.Simulation

/-!
# How far the parser gets

From where it starts the parser only moves forward, and no read stops inside a run of digits
(`Cursor.Leads`).  Comparing a run with itself turns the simulation of the parser into this
invariant: what a read keeps, every stage keeps, and refusals are placed behind the start as well.
-/

namespace DiceCup

open Text Notation

namespace Cursor

/-- A cursor that is moved over some text, which does not end inside a run of digits. -/
structure Passes
    (start : Cursor)
    (passed : List Char)
    (next : Cursor) :
    Prop
    extends MovesOver start passed next where
  apart : Apart passed next.rest

theorem Passes.trans
    {first second third : Cursor}
    {near far : List Char}
    (here : first.Passes near second)
    (there : second.Passes far third) :
    first.Passes (near ++ far) third where
  toMovesOver := here.toMovesOver.trans there.toMovesOver
  apart := Apart.append (there.rest_eq ▸ here.apart) there.apart

/-- The tokens of the text that a cursor is moved over come first. -/
theorem Passes.tokens_eq
    {start next : Cursor}
    {passed : List Char}
    (passes : start.Passes passed next) :
    tokens start.rest = tokens passed ++ tokens next.rest := by
  rw [passes.rest_eq, tokens_append passes.apart]

/-- A cursor that is moved over some text or over none. -/
def Leads
    (start next : Cursor) :
    Prop :=
  ∃ passed : List Char, start.Passes passed next

namespace Leads

theorem refl
    (cursor : Cursor) :
    Leads cursor cursor :=
  ⟨[], .refl cursor, fun _ member => nomatch member⟩

theorem trans
    {first second third : Cursor}
    (near : Leads first second)
    (far : Leads second third) :
    Leads first third := by
  obtain ⟨passedNear, near⟩ := near
  obtain ⟨passedFar, far⟩ := far
  exact ⟨passedNear ++ passedFar, near.trans far⟩

theorem advances
    {start next : Cursor}
    (leads : Leads start next) :
    start.Advances next := by
  obtain ⟨passed, passes⟩ := leads
  exact ⟨passed, passes.toMovesOver⟩

/-- What is in front of a cursor that was moved was in front of it before. -/
theorem mem_rest
    {start next : Cursor}
    {char : Char}
    (leads : Leads start next)
    (member : char ∈ next.rest) :
    char ∈ start.rest := by
  obtain ⟨passed, passes⟩ := leads
  rw [passes.rest_eq]
  exact List.mem_append_right passed member

/-- Characters of a kind are passed over as a whole, so digits are not left in the middle. -/
theorem pass
    (cursor : Cursor)
    {kind : Char → Bool}
    (whole :
      ∀ char : Char, kind char = true → char.isDigit = true →
        ∀ other : Char, other.isDigit = true → kind other = true) :
    Leads cursor (cursor.pass kind) := by
  refine ⟨_, cursor.movesOver_pass kind, ?_⟩
  intro last member digit next head
  have passed : kind last = true :=
    List.all_eq_true.mp List.all_takeWhile last (List.mem_of_mem_getLast? member)
  cases shape : next.isDigit with
  | false => rfl
  | true =>
      have stops := List.head?_dropWhile_not kind cursor.rest
      have here : (cursor.rest.dropWhile kind).head? = some next := head
      rw [here] at stops
      simp [whole last passed digit next shape] at stops

theorem skipBlanks
    (cursor : Cursor) :
    Leads cursor cursor.skipBlanks := by
  apply Leads.pass cursor
  intro char blank digit
  rw [isBlank_of_isDigit digit] at blank
  cases blank

theorem number
    (cursor : Cursor) :
    Leads cursor cursor.number.2 := by
  apply (skipBlanks cursor).trans
  rw [Cursor.number]
  split
  · exact Leads.pass _ fun _ _ _ _ digit => digit
  · exact refl _

theorem literal
    {mark : Char}
    (isMark : IsMark mark)
    (cursor : Cursor) :
    Leads cursor (cursor.literal [mark]).2 := by
  apply (skipBlanks cursor).trans
  rcases read : cursor.literal [mark] with ⟨found, next⟩
  cases found with
  | false =>
      rw [literal_missing read]
      exact refl _
  | true =>
      refine ⟨[mark], movesOver_of_literal read, ?_⟩
      rintro last member digit
      rw [List.getLast?_singleton, Option.mem_some_iff] at member
      rw [← member, isMark.2] at digit
      cases digit

/-- One run of the parser, all of it in the text that the start is in front of. -/
theorem simulation
    (start : Cursor) :
    Simulation
      (fun left right => left = right ∧ Leads start left)
      (fun left right =>
        left = right ∧ ∃ here : Cursor, Leads start here ∧ left = here.skipBlanks.offset) where
  place := by
    rintro cursor _ ⟨rfl, leads⟩
    exact ⟨rfl, cursor, leads, rfl⟩
  skipBlanks := by
    rintro cursor _ ⟨rfl, leads⟩
    exact ⟨rfl, leads.trans (skipBlanks cursor)⟩
  number := by
    rintro cursor _ ⟨rfl, leads⟩
    exact ⟨rfl, rfl, leads.trans (number cursor)⟩
  literal := by
    rintro cursor _ mark member ⟨rfl, leads⟩
    exact ⟨rfl, rfl, leads.trans (literal (isMark_of_mem_groupMarks member) cursor)⟩

end Leads

end Cursor

namespace Notation

/-! ## How far each stage leads -/

theorem leads_of_die
    {cursor next : Cursor}
    {term : Term}
    (read : die cursor = .ok (term, next)) :
    cursor.Leads next := by
  have agree := (Cursor.Leads.simulation cursor).die ⟨rfl, Cursor.Leads.refl cursor⟩
  rw [read] at agree
  obtain ⟨_, _, _, leads⟩ := agree.of_ok
  exact leads

theorem leads_of_chain
    {position : Nat}
    {cursor next : Cursor}
    {expression : Expression}
    (read : chain position cursor = .ok (expression, next)) :
    cursor.Leads next := by
  have agree := (Cursor.Leads.simulation cursor).chain ⟨rfl, Cursor.Leads.refl cursor⟩ position
  rw [read] at agree
  obtain ⟨_, _, _, leads⟩ := agree.of_ok
  exact leads

theorem leads_repetitions
    (cursor : Cursor) :
    cursor.Leads (repetitions cursor).2 :=
  ((Cursor.Leads.simulation cursor).repetitions ⟨rfl, Cursor.Leads.refl cursor⟩).2.2

theorem leads_of_group
    {room repeats : Nat}
    {cursor next : Cursor}
    {expression : Expression}
    (read : group room cursor = .ok (repeats, expression, next)) :
    cursor.Leads next := by
  have agree := (Cursor.Leads.simulation cursor).group ⟨rfl, Cursor.Leads.refl cursor⟩ room
  rw [read] at agree
  obtain ⟨_, _, _, leads⟩ := agree.of_okGroup
  exact leads

/-- One run of the groups compared with itself. -/
theorem lead_groups
    (before : List Expression)
    (cursor : Cursor) :
    Agree
      (Ends fun left right => left = right ∧ cursor.Leads left)
      (fun left right =>
        left = right ∧ ∃ here : Cursor, cursor.Leads here ∧ left = here.skipBlanks.offset)
      (groups before cursor)
      (groups before cursor) := by
  refine (Cursor.Leads.simulation cursor).groups ?_ ⟨rfl, Cursor.Leads.refl cursor⟩ before
  rintro left _ ⟨rfl, leads⟩
  exact ⟨rfl, rfl, leads.trans (Cursor.Leads.literal (by decide) left)⟩

theorem leads_of_groups
    {before expressions : List Expression}
    {cursor next : Cursor}
    (read : groups before cursor = .ok (expressions, next)) :
    cursor.Leads next := by
  have agree := lead_groups before cursor
  rw [read] at agree
  obtain ⟨_, _, _, leads⟩ := agree.of_ok
  exact leads

/-- A refusal is not placed in front of where the blanks behind the start end. -/
theorem le_position_of_groups
    {before : List Expression}
    {cursor : Cursor}
    {error : NotationError}
    (refused : groups before cursor = .error error) :
    cursor.skipBlanks.offset ≤ error.position := by
  have agree := lead_groups before cursor
  rw [refused] at agree
  obtain ⟨_, _, moved⟩ := agree.of_error
  obtain ⟨-, here, leads, place⟩ := moved.position
  rw [place]
  exact leads.advances.offset_skipBlanks_le

end Notation

end DiceCup
