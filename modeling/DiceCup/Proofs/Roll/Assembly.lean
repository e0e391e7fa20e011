import DiceCup.Proofs.Roll.Provenance

/-!
# How outcomes are put together

Every outcome comes from empty outcomes and modifiers, by throwing dice and by adding outcomes.  An
`Assembly` writes such a history down.  What it comes to depends on its modifiers and on its faces
from left to right alone (`Assembly.outcome_eq_ofParts`): no face is lost, counted twice or moved in
front of another one, however the additions are nested.

Outcomes add up words.  `Assembly.Fits` says that no sum of the history leaves the range of a word,
and then the sums are the exact ones.
-/

namespace DiceCup

/-- A history of how an outcome is put together. -/
inductive Assembly where
  /-- Nothing happens. -/
  | empty
  /-- A number is added, and no die is thrown. -/
  | start (modifier : Int64)
  /-- One more die is thrown. -/
  | push (before : Assembly) (face : UInt32)
  /-- Two outcomes are added together. -/
  | merge (left right : Assembly)

namespace Assembly

/-- The outcome that is put together. -/
def outcome :
    Assembly → Outcome
  | .empty => .empty
  | .start modifier => .ofModifier modifier
  | .push before face => before.outcome.push face.toNat
  | .merge left right => left.outcome.merge right.outcome

/-- The modifiers of all parts, from left to right. -/
def modifiers :
    Assembly → List Int64
  | .empty => []
  | .start modifier => [modifier]
  | .push before _ => before.modifiers
  | .merge left right => left.modifiers ++ right.modifiers

/-- The faces that are thrown in all parts, from left to right. -/
def faces :
    Assembly → List UInt32
  | .empty => []
  | .start _ => []
  | .push before face => before.faces ++ [face]
  | .merge left right => left.faces ++ right.faces

/-- The exact sum of the modifiers. -/
def exactModifier
    (assembly : Assembly) :
    Int :=
  (assembly.modifiers.map Int64.toInt).sum

/-- The exact sum of the modifiers and the faces. -/
def exactTotal
    (assembly : Assembly) :
    Int :=
  assembly.exactModifier + (assembly.faces.map UInt32.toNat).sum

/-- A history in which no sum leaves the range of a word, from its parts to the end. -/
def Fits :
    Assembly → Prop
  | .empty => True
  | .start _ => True
  | .push before face => before.Fits ∧ FitsWord (push before face).exactTotal
  | .merge left right =>
    left.Fits ∧ right.Fits ∧
      FitsWord (merge left right).exactModifier ∧ FitsWord (merge left right).exactTotal

/-! ## What a history comes to -/

/-- Only the modifiers and the faces of a history matter to its outcome. -/
theorem outcome_eq_ofParts
    (assembly : Assembly) :
    assembly.outcome =
      .ofParts (assembly.modifiers.map Int64.toInt) (assembly.faces.map UInt32.toNat) := by
  induction assembly with
  | empty => rfl
  | start modifier =>
      have started := Outcome.ofModifier_eq_ofParts modifier.toInt
      rwa [Int64.ofInt_toInt] at started
  | push before face inductionHypothesis =>
      rw [outcome, inductionHypothesis, Outcome.push_ofParts]
      simp only [modifiers, faces, List.map_append, List.map_singleton]
  | merge left right leftHypothesis rightHypothesis =>
      rw [outcome, leftHypothesis, rightHypothesis, Outcome.merge_ofParts]
      simp only [modifiers, faces, List.map_append]

/-- Every face is kept, in its place. -/
theorem toList_rolls_outcome
    (assembly : Assembly) :
    assembly.outcome.rolls.toList = assembly.faces.map UInt32.toNat := by
  rw [outcome_eq_ofParts, Outcome.ofParts]

/-- The sums at the end of a history are among those that fit. -/
theorem Fits.fitsWord
    {assembly : Assembly}
    (fits : assembly.Fits) :
    FitsWord assembly.exactModifier ∧ FitsWord assembly.exactTotal := by
  induction assembly with
  | empty =>
      have zero : FitsWord 0 := fitsWord_iff.mpr ⟨by decide, by decide⟩
      exact ⟨zero, zero⟩
  | start modifier =>
      have word : FitsWord modifier.toInt := ⟨modifier.minValue_le_toInt, modifier.toInt_le⟩
      have sum : (start modifier).exactModifier = modifier.toInt := Int.add_zero _
      have total : (start modifier).exactTotal = modifier.toInt :=
        (Int.add_zero _).trans sum
      rw [sum, total]
      exact ⟨word, word⟩
  | push before face inductionHypothesis => exact ⟨(inductionHypothesis fits.1).1, fits.2⟩
  | merge left right _ _ => exact fits.2.2

/-- Without overflow the modifier and the total are the exact sums. -/
theorem Fits.exact
    {assembly : Assembly}
    (fits : assembly.Fits) :
    assembly.outcome.modifier.toInt = assembly.exactModifier ∧
      assembly.outcome.total.toInt = assembly.exactTotal := by
  obtain ⟨fitsModifier, fitsTotal⟩ := fits.fitsWord
  rw [outcome_eq_ofParts]
  exact ⟨(toInt_ofInt_eq_iff _).mpr fitsModifier, (toInt_ofInt_eq_iff _).mpr fitsTotal⟩

/--
The books of an outcome and its algebra.  However an outcome is put together, it keeps all faces from
left to right; if no sum overflows on the way, its modifier is the sum of all modifiers, and its total
the sum of the modifier and the faces.  Outcomes may be added in any nesting, the outcome in which
nothing happens changes nothing on either side, and a die that is thrown after an addition belongs to
the right one.
-/
theorem outcome_assembled
    (first second third : Assembly)
    (face : UInt32) :
    (first.Fits →
        first.outcome.total.toInt =
            first.outcome.modifier.toInt + first.outcome.rolls.toList.sum ∧
          first.outcome.modifier.toInt = (first.modifiers.map Int64.toInt).sum) ∧
      first.outcome.rolls.toList = first.faces.map UInt32.toNat ∧
      ((first.merge second).merge third).outcome = (first.merge (second.merge third)).outcome ∧
      (Assembly.empty.merge first).outcome = first.outcome ∧
      (first.merge .empty).outcome = first.outcome ∧
      ((first.merge second).push face).outcome = (first.merge (second.push face)).outcome := by
  refine ⟨?_, first.toList_rolls_outcome, Outcome.merge_assoc _ _ _, Outcome.empty_merge _,
    Outcome.merge_empty _, Outcome.push_merge _ _ _⟩
  intro fits
  obtain ⟨modifier, total⟩ := fits.exact
  refine ⟨?_, modifier⟩
  rw [total, modifier, toList_rolls_outcome, exactTotal]

/-- The greatest modifier there is, and the least one with a die of so many sides as there can be. -/
def farApart :
    Assembly :=
  .merge (.start Int64.maxValue) (.push (.start Int64.minValue) 4294967295)

/-- Modifiers at both ends of a word are added exactly, and nearly cancel each other out. -/
theorem outcome_assembled_farApart :
    farApart.Fits ∧
      farApart.outcome.total.toInt =
        farApart.outcome.modifier.toInt + farApart.outcome.rolls.toList.sum ∧
      farApart.outcome.modifier.toInt = -1 ∧
      farApart.outcome.rolls.toList = [4294967295] := by
  have fits : farApart.Fits :=
    ⟨trivial, ⟨trivial, fitsWord_iff.mpr (by decide)⟩, fitsWord_iff.mpr (by decide),
      fitsWord_iff.mpr (by decide)⟩
  have books := outcome_assembled farApart .empty .empty 0
  exact ⟨fits, (books.1 fits).1, (books.1 fits).2, books.2.1⟩

end Assembly

end DiceCup
