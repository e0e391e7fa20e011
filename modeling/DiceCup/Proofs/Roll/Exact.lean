import DiceCup.Proofs.Notation.Limits
import DiceCup.Proofs.Roll.Provenance
import DiceCup.Proofs.Roll.Record

/-!
# Sums that never overflow

The limits on a notation keep every sum of a roll far from the ends of a word of 64 bits.  What is
carried from step to step is `Outcome.Within`: an outcome of so many terms and so many dice has its
modifier and its total between bounds that grow with both.  Each step of a roll within the limits
keeps these bounds and adds exactly, which is `Step.Sound`.
-/

namespace DiceCup

open Notation

/-! ## Bounds on outcomes -/

/-- The bounds on an outcome of so many terms and so many dice at most. -/
structure Outcome.Within
    (terms dice : Nat)
    (outcome : Outcome) :
    Prop where
  le_modifier : -(terms * 2 ^ 31 : Int) ≤ outcome.modifier.toInt
  modifier_le : outcome.modifier.toInt ≤ terms * (2 ^ 31 - 1)
  modifier_le_total : outcome.modifier.toInt ≤ outcome.total.toInt
  total_le : outcome.total.toInt ≤ outcome.modifier.toInt + dice * (2 ^ 32 - 1)

theorem Outcome.Within.mono
    {terms moreTerms dice moreDice : Nat}
    {outcome : Outcome}
    (within : outcome.Within terms dice)
    (fewTerms : terms ≤ moreTerms)
    (fewDice : dice ≤ moreDice) :
    outcome.Within moreTerms moreDice := by
  obtain ⟨leModifier, modifierLe, modifierLeTotal, totalLe⟩ := within
  constructor <;> omega

/-- A step whose sums of words are the exact sums. -/
def Step.Exact :
    Step → Prop
  | .start bonus =>
    (Outcome.ofModifier (Int64.ofInt bonus)).total.toInt = bonus ∧
      (Outcome.ofModifier (Int64.ofInt bonus)).modifier.toInt = bonus
  | .push before face => (before.push face).total.toInt = before.total.toInt + face
  | .merge left right =>
    (left.merge right).total.toInt = left.total.toInt + right.total.toInt ∧
      (left.merge right).modifier.toInt = left.modifier.toInt + right.modifier.toInt

/-- A step that adds exactly and stays within the bounds of a roll within the limits. -/
structure Step.Sound
    (step : Step) :
    Prop where
  adds : step.Exact
  within : step.outcome.Within maxTerms maxDice

theorem within_start
    (term : Term) :
    (Step.start term.bonus).Exact ∧ (Step.start term.bonus).outcome.Within 1 0 := by
  have low : -(2 ^ 31 : Int) ≤ term.bonus := term.le_bonus
  have high : term.bonus ≤ 2 ^ 31 - 1 := term.bonus_le
  have same : (Int64.ofInt term.bonus).toInt = term.bonus :=
    Int64.toInt_ofInt_of_le (by omega) (by omega)
  refine ⟨⟨same, same⟩, ?_⟩
  constructor <;> simp only [Step.outcome, Outcome.ofModifier, same] <;> omega

/-- A die that is thrown moves only the total, by its face. -/
theorem within_push
    {terms dice face : Nat}
    {before : Outcome}
    (within : before.Within terms dice)
    (fewTerms : terms ≤ maxTerms)
    (fewDice : dice < maxDice)
    (fits : face < UInt32.size) :
    (Step.push before face).Exact ∧ (Step.push before face).outcome.Within terms (dice + 1) := by
  obtain ⟨leModifier, modifierLe, modifierLeTotal, totalLe⟩ := within
  -- With the limits as numbers the bounds on the total are linear.
  have terms_le : terms ≤ 100 := fewTerms
  have dice_lt : dice < 10000 := fewDice
  have face_lt : face < 2 ^ 32 := fits
  have same : (Int64.ofNat face).toInt = face :=
    Int64.toInt_ofNat_of_lt (by omega)
  have fitsTotal : FitsWord (before.total.toInt + face) :=
    fitsWord_iff.mpr (by omega)
  have total : (before.total + Int64.ofNat face).toInt = before.total.toInt + face := by
    rw [← same] at fitsTotal ⊢
    exact toInt_add_of_fits fitsTotal
  refine ⟨total, ?_⟩
  constructor <;> simp only [Step.outcome, Outcome.push, total] <;> omega

/-- Outcomes that are added have the terms and the dice of both. -/
theorem within_merge
    {leftTerms leftDice rightTerms rightDice : Nat}
    {left right : Outcome}
    (withinLeft : left.Within leftTerms leftDice)
    (withinRight : right.Within rightTerms rightDice)
    (fewTerms : leftTerms + rightTerms ≤ maxTerms)
    (fewDice : leftDice + rightDice ≤ maxDice) :
    (Step.merge left right).Exact ∧
      (Step.merge left right).outcome.Within (leftTerms + rightTerms) (leftDice + rightDice) := by
  obtain ⟨leModifier, modifierLe, modifierLeTotal, totalLe⟩ := withinLeft
  obtain ⟨leModifierRight, modifierLeRight, modifierLeTotalRight, totalLeRight⟩ := withinRight
  have terms_le : leftTerms + rightTerms ≤ 100 := fewTerms
  have dice_le : leftDice + rightDice ≤ 10000 := fewDice
  have total : (left.total + right.total).toInt = left.total.toInt + right.total.toInt :=
    toInt_add_of_fits (fitsWord_iff.mpr (by omega))
  have modifier :
      (left.modifier + right.modifier).toInt = left.modifier.toInt + right.modifier.toInt :=
    toInt_add_of_fits (fitsWord_iff.mpr (by omega))
  refine ⟨⟨total, modifier⟩, ?_⟩
  constructor <;> simp only [Step.outcome, Outcome.merge, total, modifier] <;> push_cast <;> omega

/-! ## Steps of a roll -/

variable {σ : Type} [DieSource σ] [LawfulDieSource σ]

theorem makes_recordDice
    {sides : Nat}
    (positive : 0 < sides)
    (fits : sides < UInt32.size)
    {terms dice count : Nat}
    {outcome : Outcome}
    (within : outcome.Within terms dice)
    (fewTerms : terms ≤ maxTerms)
    (fewDice : dice + count ≤ maxDice) :
    (Outcome.recordDice sides count outcome : Recorder σ Outcome).Makes Step.Sound
      (Outcome.Within terms (dice + count)) := by
  induction count generalizing dice outcome with
  | zero => exact .pure within
  | succ count inductionHypothesis =>
      refine .bind (.throw positive fits) fun face mem => ?_
      have face_lt : face < UInt32.size := Nat.lt_of_le_of_lt mem.2 fits
      obtain ⟨adds, within⟩ := within_push within fewTerms (by omega) face_lt
      refine .bind (.record ⟨adds, within.mono fewTerms (by omega)⟩ within) fun next within => ?_
      -- The dice that are left start from the outcome that was recorded, which has one die more.
      have others := inductionHypothesis within (by omega)
      rwa [Nat.add_assoc, Nat.add_comm 1 count] at others

theorem makes_recordTerm
    (term : Term) :
    (term.recordRoll : Recorder σ Outcome).Makes Step.Sound (Outcome.Within 1 term.count) := by
  have oneTerm : 1 ≤ maxTerms := by decide
  obtain ⟨adds, within⟩ := within_start term
  refine .bind (.record ⟨adds, within.mono oneTerm (Nat.zero_le _)⟩ within) fun start within => ?_
  have dice := makes_recordDice (σ := σ) term.sides_pos term.sides_lt within oneTerm
    (Nat.le_trans (Nat.le_of_eq (Nat.zero_add _)) term.count_le)
  rwa [Nat.zero_add] at dice

/-- Every step of a roll within the limits is sound. -/
theorem makes_recordRoll
    (expression : Expression)
    (fewTerms : expression.terms.length ≤ maxTerms)
    (fewDice : expression.diceCount ≤ maxDice) :
    (expression.recordRoll : Recorder σ Outcome).Makes Step.Sound
      (Outcome.Within expression.terms.length expression.diceCount) := by
  induction expression with
  | single term =>
      rw [Expression.terms_single, List.length_singleton, Expression.diceCount_single]
      exact makes_recordTerm term
  | combine left right leftHypothesis rightHypothesis =>
      rw [Expression.terms_combine, List.length_append] at fewTerms ⊢
      rw [Expression.diceCount_combine] at fewDice ⊢
      refine .bind (leftHypothesis (by omega) (by omega)) fun first withinFirst => ?_
      refine .bind (rightHypothesis (by omega) (by omega)) fun second withinSecond => ?_
      obtain ⟨adds, within⟩ := within_merge withinFirst withinSecond fewTerms fewDice
      exact .record ⟨adds, within.mono fewTerms fewDice⟩ within

theorem sound_of_mem_steps
    {expression : Expression}
    (fewTerms : expression.terms.length ≤ maxTerms)
    (fewDice : expression.diceCount ≤ maxDice)
    {source : σ}
    {step : Step}
    (member : step ∈ expression.steps source) :
    step.Sound :=
  (makes_recordRoll expression fewTerms fewDice [] source (List.forall_mem_nil _)).2 step member

/-! ## Notations -/

/-- The range of the sums of a roll that a notation can ask for. -/
def InRollRange
    (value : Int) :
    Prop :=
  -(100 * 2 ^ 31) ≤ value ∧
    value ≤ 100 * (2 ^ 31 - 1) + 10000 * (2 ^ 32 - 1) ∧
    |value| < 2 ^ 46

theorem Outcome.Within.inRollRange
    {outcome : Outcome}
    (within : outcome.Within maxTerms maxDice) :
    InRollRange outcome.total.toInt ∧ InRollRange outcome.modifier.toInt := by
  obtain ⟨leModifier, modifierLe, modifierLeTotal, totalLe⟩ := within
  simp only [maxTerms, maxDice, Nat.cast_ofNat] at leModifier modifierLe totalLe
  simp only [InRollRange, abs_lt]
  omega

theorem countAll_le_length_mul
    (terms : List Term) :
    Term.countAll terms ≤ terms.length * maxDice := by
  induction terms with
  | nil => exact Nat.zero_le _
  | cons term others inductionHypothesis =>
      rw [Term.countAll_cons, List.length_cons, Nat.succ_mul, Nat.add_comm]
      exact Nat.add_le_add inductionHypothesis term.count_le

/-- The dice of any chain that is read can be counted, also of a chain that has too many. -/
theorem diceCount_le_of_chain
    {cursor next : Cursor}
    {expression : Expression}
    (read : chain 1 cursor = .ok (expression, next)) :
    expression.diceCount ≤ maxTerms * maxDice := by
  have fewTerms : expression.terms.length ≤ maxTerms :=
    Nat.le_of_succ_le_succ (length_terms_of_chain read)
  exact Nat.le_trans (countAll_le_length_mul expression.terms)
    (Nat.mul_le_mul_right maxDice fewTerms)

/--
No sum of a roll that a notation asks for overflows.  Each step of the roll adds exactly, and every
outcome on the way has its total and its modifier in a range far smaller than that of a word.  The
dice of a chain are at most a million even before the chain is refused for them.
-/
theorem steps_exact_of_parse
    (text : String)
    (source : σ) :
    (∀ expressions : List Expression,
        parse text = .ok expressions →
          ∀ expression ∈ expressions,
            (expression.recordRoll.run []).run source =
                (((expression.roll.run source).1, expression.steps source),
                  (expression.roll.run source).2) ∧
              ∀ step ∈ expression.steps source,
                step.Exact ∧
                  InRollRange step.outcome.total.toInt ∧
                  InRollRange step.outcome.modifier.toInt) ∧
      ∀ (cursor next : Cursor) (expression : Expression),
        chain 1 cursor = .ok (expression, next) → expression.diceCount ≤ 1000000 := by
  constructor
  · intro expressions parsed expression member
    obtain ⟨readable, -⟩ := readable_of_parse parsed
    refine ⟨run_recordRoll expression source, ?_⟩
    intro step done
    have sound := sound_of_mem_steps (readable.terms_le expression member)
      (readable.dice_le expression member) done
    exact ⟨sound.adds, sound.within.inRollRange⟩
  · intro cursor next expression read
    exact diceCount_le_of_chain read

/-- Ten thousand six-sided dice. -/
def manyDice :
    Term :=
  WrittenTerm.term ⟨10000, 6, 0⟩ ⟨by decide, by decide, by decide⟩

/-- Five dice are added exactly, and the dice of a chain that has one too many are counted. -/
theorem steps_exact_of_parse_fiveDice :
    LawfulDieSource Tape ∧
      parse fiveDice.render = .ok [fiveDice] ∧
      (∀ step ∈ fiveDice.steps (Tape.ofWords [1, 2, 3]),
        step.Exact ∧
          InRollRange step.outcome.total.toInt ∧
          InRollRange step.outcome.modifier.toInt) ∧
      chain 1 (Cursor.ofText ['1', '0', '0', '0', '0', 'd', '6', '&', 'd', '4']) =
        .ok (.combine (.single manyDice) (.single fourSided), ⟨10, []⟩) ∧
      (Expression.combine (.single manyDice) (.single fourSided)).diceCount ≤ 1000000 := by
  have parsed : parse fiveDice.render = .ok [fiveDice] := by
    rcases parse_render_cases fiveDice with ⟨-, parsed⟩ | ⟨outside, -⟩
    · exact parsed
    · exact absurd ⟨by decide, by decide, by decide⟩ outside
  have last : chain 2 ⟨8, ['d', '4']⟩ = .ok (.single fourSided, ⟨10, []⟩) := by
    rw [chain_eq]
    rfl
  have first :
      die (Cursor.ofText ['1', '0', '0', '0', '0', 'd', '6', '&', 'd', '4']) =
        .ok (manyDice, ⟨7, ['&', 'd', '4']⟩) :=
    rfl
  have joined : Cursor.literal ['&'] ⟨7, ['&', 'd', '4']⟩ = (true, ⟨8, ['d', '4']⟩) := rfl
  have read :
      chain 1 (Cursor.ofText ['1', '0', '0', '0', '0', 'd', '6', '&', 'd', '4']) =
        .ok (.combine (.single manyDice) (.single fourSided), ⟨10, []⟩) := by
    rw [chain_eq, if_neg (by decide), first]
    simp only [joined, if_true, last]
  have exactly := steps_exact_of_parse fiveDice.render (Tape.ofWords [1, 2, 3])
  exact ⟨inferInstance, parsed, (exactly.1 _ parsed _ List.mem_cons_self).2, read,
    exactly.2 _ _ _ read⟩

end DiceCup
