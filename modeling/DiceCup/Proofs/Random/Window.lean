import DiceCup.Random.Face
import Mathlib.Data.Set.Card
import Mathlib.Order.Interval.Set.Nat

/-!
# The words that choose a face

A word chooses a face when its product with the number of sides falls into the window of that face.
The products are the multiples of the number of sides, and a window is the number of sides times a
power of two wide.  So wherever a window starts, the words that fall into it are consecutive and
their number is that power of two (`ncard_chooses`): it is the same for the first face, the last face
and every face between them.
-/

namespace DiceCup.Face

/-- The zeros in front of the number of sides, written as a word of 32 bits. -/
def leadingZeros
    (sides : Nat) :
    Nat :=
  (BitVec.ofNat 32 sides).clz.toNat

/-- A word that need not be drawn again and chooses a face. -/
structure Chooses
    (sides face : Nat)
    (word : UInt32) :
    Prop where
  accepted : accepts sides word = true
  face_eq : ofWord sides word = face

variable {sides : Nat}

/-! ## The window -/

/-- A number of sides can be doubled once for each zero in front of it. -/
theorem doublings_eq_leadingZeros
    (positive : 0 < sides)
    (fits : sides < UInt32.size) :
    doublings sides = leadingZeros sides := by
  have same : (BitVec.ofNat 32 sides).toNat = sides := by
    rw [BitVec.toNat_ofNat, Nat.mod_eq_of_lt fits]
  have nonzero : BitVec.ofNat 32 sides ≠ 0#32 := by
    intro zero
    rw [zero] at same
    exact positive.ne same
  have lower := BitVec.two_pow_sub_clz_le_toNat_of_ne_zero (by decide) nonzero
  have upper := BitVec.toNat_lt_two_pow_sub_clz (x := BitVec.ofNat 32 sides)
  rw [same] at lower upper
  have few : sides.log2 < 32 - leadingZeros sides :=
    (Nat.log2_lt positive.ne').mpr upper
  have many : 32 - 1 - leadingZeros sides ≤ sides.log2 :=
    (Nat.le_log2 positive.ne').mpr lower
  rw [doublings]
  omega

theorem window_eq
    (positive : 0 < sides)
    (fits : sides < UInt32.size) :
    window sides = sides * 2 ^ leadingZeros sides := by
  rw [window, Nat.shiftLeft_eq, doublings_eq_leadingZeros positive fits]

/-- A window is not wider than the words that there are. -/
theorem window_le
    (positive : 0 < sides)
    (fits : sides < UInt32.size) :
    window sides ≤ UInt32.size := by
  have bits : sides.log2 < 32 := (Nat.log2_lt positive.ne').mpr fits
  calc
    window sides = sides * 2 ^ (31 - sides.log2) := Nat.shiftLeft_eq _ _
    _ ≤ 2 ^ (sides.log2 + 1) * 2 ^ (31 - sides.log2) :=
      Nat.mul_le_mul_right _ Nat.lt_log2_self.le
    _ = 2 ^ 32 := by
      rw [← Nat.pow_add]
      congr 1
      omega

/-- A word is taken when the low half of its product lies in the zone of the number of sides. -/
theorem accepts_iff_zone
    (positive : 0 < sides)
    (fits : sides < UInt32.size)
    (word : UInt32) :
    accepts sides word = true ↔
      word.toNat * sides % 2 ^ 32 ≤ sides * 2 ^ leadingZeros sides - 1 := by
  have wide : 0 < sides * 2 ^ leadingZeros sides :=
    Nat.mul_pos positive (Nat.two_pow_pos _)
  rw [accepts, decide_eq_true_iff, window_eq positive fits]
  exact (Nat.le_sub_one_iff_lt wide).symm

/-! ## Counting -/

/-- The words that choose a face are those whose product falls into the window of the face. -/
theorem chooses_iff
    (positive : 0 < sides)
    (fits : sides < UInt32.size)
    (before : Nat)
    (word : UInt32) :
    Chooses sides (before + 1) word ↔
      before * UInt32.size ≤ word.toNat * sides ∧
        word.toNat * sides < before * UInt32.size + window sides := by
  have parts := Nat.div_add_mod (word.toNat * sides) UInt32.size
  rw [Nat.mul_comm UInt32.size] at parts
  constructor
  · rintro ⟨accepted, face⟩
    have low : word.toNat * sides % UInt32.size < window sides := by
      simpa [accepts] using accepted
    have high : word.toNat * sides / UInt32.size = before := by
      rw [ofWord, Nat.add_comm] at face
      exact Nat.succ.inj face
    rw [high] at parts
    omega
  · rintro ⟨lower, upper⟩
    have narrow := window_le positive fits
    have high : word.toNat * sides / UInt32.size = before := by
      apply Nat.div_eq_of_lt_le lower
      rw [Nat.succ_mul]
      omega
    rw [high] at parts
    refine ⟨?_, ?_⟩
    · rw [accepts, decide_eq_true_eq]
      omega
    · rw [ofWord, high, Nat.add_comm]

/-- A stretch that is some times as wide as a number holds so many of its multiples. -/
theorem multiples_eq_Ico
    (positive : 0 < sides)
    (start times : Nat) :
    {factor : Nat | start ≤ factor * sides ∧ factor * sides < start + sides * times} =
      Set.Ico ((start + (sides - 1)) / sides) ((start + (sides - 1)) / sides + times) := by
  ext factor
  have lower : start ≤ factor * sides ↔ (start + (sides - 1)) / sides ≤ factor := by
    rw [← Nat.lt_add_one_iff (n := factor), Nat.div_lt_iff_lt_mul positive, Nat.succ_mul]
    omega
  have upper :
      factor * sides < start + sides * times ↔
        factor < (start + (sides - 1)) / sides + times := by
    rw [← Nat.add_mul_div_left _ _ positive, ← Nat.succ_le_iff (m := factor),
      Nat.le_div_iff_mul_le positive, Nat.succ_mul]
    omega
  rw [Set.mem_ofPred_eq, Set.mem_Ico, lower, upper]

/-- Every face is chosen by the same number of words. -/
theorem ncard_chooses
    (positive : 0 < sides)
    (fits : sides < UInt32.size)
    {face : Nat}
    (first_le : 1 ≤ face)
    (le_last : face ≤ sides) :
    {word : UInt32 | Chooses sides face word}.ncard = 2 ^ leadingZeros sides := by
  obtain ⟨before, rfl⟩ := Nat.exists_eq_add_of_le' first_le
  have values :
      UInt32.toNat '' {word : UInt32 | Chooses sides (before + 1) word} =
        {factor : Nat |
          before * UInt32.size ≤ factor * sides ∧
            factor * sides < before * UInt32.size + sides * 2 ^ leadingZeros sides} := by
    rw [← window_eq positive fits]
    ext factor
    constructor
    · rintro ⟨word, chooses, rfl⟩
      exact (chooses_iff positive fits before word).mp chooses
    · intro inside
      -- The window of the last face still ends before the products outgrow two words.
      have small : factor < UInt32.size := by
        apply Nat.lt_of_mul_lt_mul_right (a := sides)
        calc
          factor * sides < before * UInt32.size + window sides := inside.2
          _ ≤ before * UInt32.size + UInt32.size :=
            Nat.add_le_add_left (window_le positive fits) _
          _ = (before + 1) * UInt32.size := (Nat.succ_mul _ _).symm
          _ ≤ sides * UInt32.size := Nat.mul_le_mul_right _ le_last
          _ = UInt32.size * sides := Nat.mul_comm _ _
      have same : (UInt32.ofNatLT factor small).toNat = factor := UInt32.toNat_ofNatLT
      refine ⟨UInt32.ofNatLT factor small, ?_, same⟩
      apply (chooses_iff positive fits before _).mpr
      rw [same]
      exact inside
  have injective : Function.Injective UInt32.toNat := fun _ _ => UInt32.toNat.inj
  rw [← Set.ncard_image_of_injective _ injective, values, multiples_eq_Ico positive,
    Set.ncard_Ico_nat, Nat.add_sub_cancel_left]

/-- Choices that each have the same number of words have the powers of it together. -/
theorem ncard_forall₂
    {Word : Type}
    {Choice : Nat → Word → Prop}
    {size : Nat}
    {faces : List Nat}
    (each : ∀ face ∈ faces, {word : Word | Choice face word}.ncard = size) :
    {words : List Word | List.Forall₂ Choice faces words}.ncard = size ^ faces.length := by
  induction faces with
  | nil =>
      have only : {words : List Word | List.Forall₂ Choice [] words} = {[]} := by
        ext words
        simp
      rw [only, Set.ncard_singleton, List.length_nil, Nat.pow_zero]
  | cons face faces inductionHypothesis =>
      obtain ⟨first, others⟩ := List.forall_mem_cons.mp each
      have pairs :
          {words : List Word | List.Forall₂ Choice (face :: faces) words} =
            (fun pair : Word × List Word => pair.1 :: pair.2) ''
              ({word | Choice face word} ×ˢ {words | List.Forall₂ Choice faces words}) := by
        ext words
        constructor
        · rintro (_ | ⟨chosen, rest⟩)
          exact ⟨(_, _), ⟨chosen, rest⟩, rfl⟩
        · rintro ⟨⟨word, rest⟩, ⟨chosen, restChosen⟩, rfl⟩
          exact .cons chosen restChosen
      have injective :
          Function.Injective fun pair : Word × List Word => pair.1 :: pair.2 := by
        rintro ⟨word, rest⟩ ⟨otherWord, otherRest⟩ same
        exact Prod.ext (List.head_eq_of_cons_eq same) (List.tail_eq_of_cons_eq same)
      rw [pairs, Set.ncard_image_of_injective _ injective, Set.ncard_prod, first,
        inductionHypothesis others, List.length_cons, Nat.pow_succ']

end DiceCup.Face
