import DiceCup.Proofs.Notation.Grammar
import DiceCup.Random.Tape
import DiceCup.Roll.Throw
import Mathlib.Algebra.Order.Ring.Int
import Mathlib.Data.List.Forall2
import Mathlib.Tactic.Ring

/-!
# What an outcome is made of

Every outcome of a roll is made of the bonuses of the terms and of the faces of their dice, and of
nothing else: `Outcome.ofParts` puts bonuses and faces together, and starting a term, throwing a die
and adding two outcomes give such outcomes again.  A roll cuts its faces into one block for each
term, as `exists_blocks_of_roll` says, whatever the source.

Sums are words of 64 bits.  They are the words of the exact sums for every expression, and they are
the exact sums themselves when these fit a word.
-/

namespace DiceCup

/-! ## Bonuses and faces -/

namespace Outcome

/-- The outcome that is made of some bonuses and some faces. -/
def ofParts
    (bonuses : List Int)
    (faces : List Nat) :
    Outcome where
  total := Int64.ofInt (bonuses.sum + faces.sum)
  modifier := Int64.ofInt bonuses.sum
  rolls := faces.toArray

theorem ofModifier_eq_ofParts
    (bonus : Int) :
    ofModifier (Int64.ofInt bonus) = ofParts [bonus] [] := by
  simp [ofModifier, ofParts]

/-- A die that is thrown adds its face behind the others. -/
theorem push_ofParts
    (bonuses : List Int)
    (faces : List Nat)
    (face : Nat) :
    (ofParts bonuses faces).push face = ofParts bonuses (faces ++ [face]) := by
  simp [push, ofParts, Int64.ofInt_add, Int64.ofInt_eq_ofNat, Int64.add_assoc]

/-- Outcomes that are added put their parts together. -/
theorem merge_ofParts
    (bonuses otherBonuses : List Int)
    (faces otherFaces : List Nat) :
    (ofParts bonuses faces).merge (ofParts otherBonuses otherFaces) =
      ofParts (bonuses ++ otherBonuses) (faces ++ otherFaces) := by
  have total :
      bonuses.sum + (faces.sum : Int) + (otherBonuses.sum + otherFaces.sum) =
        (bonuses ++ otherBonuses).sum + ((faces ++ otherFaces).sum : Nat) := by
    rw [List.sum_append, List.sum_append, Nat.cast_add]
    ring
  simp only [merge, ofParts, ← Int64.ofInt_add, total, List.sum_append, List.append_toArray]

end Outcome

/-! ## Words -/

/-- A number that a word of 64 bits with a sign holds. -/
def FitsWord
    (value : Int) :
    Prop :=
  Int64.minValue.toInt ≤ value ∧ value ≤ Int64.maxValue.toInt

theorem fitsWord_iff
    {value : Int} :
    FitsWord value ↔ -2 ^ 63 ≤ value ∧ value < 2 ^ 63 := by
  have least : Int64.minValue.toInt = -2 ^ 63 := rfl
  have greatest : Int64.maxValue.toInt = 2 ^ 63 - 1 := rfl
  rw [FitsWord, least, greatest, Int.le_sub_one_iff]

/-- The word of a number is the number itself exactly if the number fits a word. -/
theorem toInt_ofInt_eq_iff
    (value : Int) :
    (Int64.ofInt value).toInt = value ↔ FitsWord value := by
  constructor
  · intro same
    rw [← same]
    exact ⟨(Int64.ofInt value).minValue_le_toInt, (Int64.ofInt value).toInt_le⟩
  · intro fits
    obtain ⟨low, high⟩ := fitsWord_iff.mp fits
    exact Int64.toInt_ofInt_of_le low high

/-- The sum of two words is exact if it fits a word. -/
theorem toInt_add_of_fits
    {left right : Int64}
    (fits : FitsWord (left.toInt + right.toInt)) :
    (left + right).toInt = left.toInt + right.toInt := by
  have same := (toInt_ofInt_eq_iff _).mpr fits
  rwa [Int64.ofInt_add, Int64.ofInt_toInt, Int64.ofInt_toInt] at same

/-! ## Rolls -/

/-- Faces that a roll of a term can show: one for each die, and each of them one of its sides. -/
structure Term.Shows
    (term : Term)
    (faces : List Nat) :
    Prop where
  length_eq : faces.length = term.count
  mem_sides : ∀ face ∈ faces, 1 ≤ face ∧ face ≤ term.sides

variable {σ : Type} [DieSource σ] [LawfulDieSource σ]

/-- Dice that are thrown add one face each, behind the faces that were there before. -/
theorem exists_faces_of_throwDice
    {sides : Nat}
    (positive : 0 < sides)
    (fits : sides < UInt32.size)
    (count : Nat)
    (bonuses : List Int)
    (before : List Nat)
    (source : σ) :
    ∃ faces : List Nat,
      faces.length = count ∧
        (∀ face ∈ faces, 1 ≤ face ∧ face ≤ sides) ∧
        ((Outcome.throwDice sides count (.ofParts bonuses before)).run source).1 =
          .ofParts bonuses (before ++ faces) := by
  -- Each die is thrown behind the faces of those before it, from the source that they leave.
  induction count generalizing before source with
  | zero =>
      refine ⟨[], rfl, List.forall_mem_nil _, ?_⟩
      rw [List.append_nil]
      rfl
  | succ count inductionHypothesis =>
      let thrown := (DieSource.throw sides).run source
      have mem : 1 ≤ thrown.1 ∧ thrown.1 ≤ sides :=
        LawfulDieSource.throw_mem positive fits source
      obtain ⟨faces, length, others, rolled⟩ :=
        inductionHypothesis (before ++ [thrown.1]) thrown.2
      refine ⟨thrown.1 :: faces, by rw [List.length_cons, length], ?_, ?_⟩
      · intro face member
        rcases List.mem_cons.mp member with rfl | later
        · exact mem
        · exact others face later
      · rw [List.append_cons, ← rolled, ← Outcome.push_ofParts]
        rfl

theorem exists_faces_of_rollTerm
    (term : Term)
    (source : σ) :
    ∃ faces : List Nat,
      term.Shows faces ∧ (term.roll.run source).1 = .ofParts [term.bonus] faces := by
  obtain ⟨faces, length, sides, rolled⟩ :=
    exists_faces_of_throwDice term.sides_pos term.sides_lt term.count [term.bonus] [] source
  refine ⟨faces, ⟨length, sides⟩, ?_⟩
  rw [Term.roll, Outcome.ofModifier_eq_ofParts, rolled, List.nil_append]

/-- The faces of a roll are cut into one block for each term. -/
theorem exists_blocks_of_roll
    (expression : Expression)
    (source : σ) :
    ∃ blocks : List (List Nat),
      List.Forall₂ Term.Shows expression.terms blocks ∧
        (expression.roll.run source).1 =
          .ofParts (expression.terms.map Term.bonus) blocks.flatten := by
  induction expression generalizing source with
  | single term =>
      obtain ⟨faces, shows, rolled⟩ := exists_faces_of_rollTerm term source
      refine ⟨[faces], .cons shows .nil, ?_⟩
      rw [List.flatten_singleton]
      exact rolled
  | combine left right leftHypothesis rightHypothesis =>
      obtain ⟨leftBlocks, leftShows, leftRolled⟩ := leftHypothesis source
      obtain ⟨rightBlocks, rightShows, rightRolled⟩ :=
        rightHypothesis (left.roll.run source).2
      refine ⟨leftBlocks ++ rightBlocks, List.rel_append leftShows rightShows, ?_⟩
      rw [Expression.terms_combine, List.map_append, List.flatten_append, ← Outcome.merge_ofParts,
        ← leftRolled, ← rightRolled]
      rfl

/-- Blocks with a face for each die of their terms hold as many faces as the terms have dice. -/
theorem length_flatten_of_lengths
    {terms : List Term}
    {blocks : List (List Nat)}
    (lengths : List.Forall₂ (fun term faces => faces.length = term.count) terms blocks) :
    blocks.flatten.length = Term.countAll terms := by
  induction lengths with
  | nil => rfl
  | cons first _ inductionHypothesis =>
      rw [List.flatten_cons, List.length_append, first, inductionHypothesis, Term.countAll_cons]

/--
Where the parts of a roll come from.  Its faces are cut into consecutive blocks, one for each term,
with one side of the term for each of its dice.  Its modifier is the sum of all bonuses, and its
total the sum of the modifier and the faces.  These are sums of words; they are the exact sums
whenever the exact sums are words.
-/
theorem roll_provenance
    (expression : Expression)
    (source : σ) :
    let outcome := (expression.roll.run source).1
    let bonuses := (expression.terms.map Term.bonus).sum
    let faces := outcome.rolls.toList.sum
    outcome.rolls.size = expression.diceCount ∧
      (∃ blocks : List (List Nat),
        outcome.rolls.toList = blocks.flatten ∧
          List.Forall₂ Term.Shows expression.terms blocks) ∧
      outcome.modifier = Int64.ofInt bonuses ∧
      outcome.total = outcome.modifier + Int64.ofNat faces ∧
      (outcome.modifier.toInt = bonuses ↔ FitsWord bonuses) ∧
      (outcome.total.toInt = bonuses + faces ↔ FitsWord (bonuses + faces)) := by
  intro outcome bonuses faces
  obtain ⟨blocks, shows, rolled⟩ := exists_blocks_of_roll expression source
  have made : outcome = .ofParts (expression.terms.map Term.bonus) blocks.flatten := rolled
  have rolls : outcome.rolls.toList = blocks.flatten := by
    rw [made, Outcome.ofParts]
  have modifier : outcome.modifier = Int64.ofInt bonuses := by
    rw [made, Outcome.ofParts]
  have total : outcome.total = Int64.ofInt (bonuses + faces) := by
    rw [made, Outcome.ofParts, ← rolls]
  refine ⟨?_, ⟨blocks, rolls, shows⟩, modifier, ?_, ?_, ?_⟩
  · have lengths := shows.imp fun _ _ shown => shown.length_eq
    rw [← Array.length_toList, rolls, length_flatten_of_lengths lengths, Expression.diceCount]
  · rw [total, modifier, Int64.ofInt_add, Int64.ofInt_eq_ofNat]
  · rw [modifier]
    exact toInt_ofInt_eq_iff bonuses
  · rw [total]
    exact toInt_ofInt_eq_iff (bonuses + faces)

/-- Three eight-sided dice less five, and two six-sided dice. -/
def fiveDice :
    Expression :=
  .combine (.single (WrittenTerm.term ⟨3, 8, -5⟩ ⟨by decide, by decide, by decide⟩))
    (.single (WrittenTerm.term ⟨2, 6, 0⟩ ⟨by decide, by decide, by decide⟩))

/-- The five faces that a tape of words gives are cut after the third one. -/
theorem roll_provenance_tape :
    LawfulDieSource Tape ∧
      (fiveDice.roll.run (Tape.ofWords [1, 2, 3])).1.rolls.size = fiveDice.diceCount ∧
      ∃ blocks : List (List Nat),
        (fiveDice.roll.run (Tape.ofWords [1, 2, 3])).1.rolls.toList = blocks.flatten ∧
          List.Forall₂ Term.Shows fiveDice.terms blocks := by
  have whole := roll_provenance fiveDice (Tape.ofWords [1, 2, 3])
  exact ⟨inferInstance, whole.1, whole.2.1⟩

end DiceCup
