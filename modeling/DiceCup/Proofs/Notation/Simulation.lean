import DiceCup.Proofs.Notation.Stages

/-!
# Two runs of the parser side by side

The parser looks at its text only through the reads of a cursor.  So a relation between cursors that
every read keeps is kept by each stage of the parser: two related cursors give the same dice, or
refusals of the same cause at places that correspond.

`Simulation` says what the reads have to keep, and `Simulation.die`, `Simulation.chain`,
`Simulation.repetitions`, `Simulation.group` and `Simulation.groups` say what the stages then keep.
The semicolon stands apart: a relation may hold inside a group only.
-/

namespace DiceCup.Notation

/-- The characters that are looked for inside a group. -/
def groupMarks :
    List Char :=
  ['d', 'x', '&', '+', '-']

theorem isMark_of_mem_groupMarks
    {mark : Char}
    (member : mark ∈ groupMarks) :
    Cursor.IsMark mark := by
  simp only [groupMarks, List.mem_cons, List.not_mem_nil, or_false] at member
  rcases member with rfl | rfl | rfl | rfl | rfl <;>
    decide

/-- A relation between cursors that every read inside a group keeps. -/
structure Simulation
    (Related : Cursor → Cursor → Prop)
    (Places : Nat → Nat → Prop) :
    Prop where
  place {left right : Cursor} :
    Related left right → Places left.skipBlanks.offset right.skipBlanks.offset
  skipBlanks {left right : Cursor} :
    Related left right → Related left.skipBlanks right.skipBlanks
  number {left right : Cursor} :
    Related left right →
      left.number.1 = right.number.1 ∧ Related left.number.2 right.number.2
  literal {left right : Cursor} (mark : Char) :
    mark ∈ groupMarks → Related left right →
      (left.literal [mark]).1 = (right.literal [mark]).1 ∧
        Related (left.literal [mark]).2 (right.literal [mark]).2

/-- Refusals inside a group that differ in their place only. -/
inductive Moved
    (Places : Nat → Nat → Prop) :
    NotationError → NotationError → Prop where
  | missing
      {left right : Nat}
      (wanted : Wanted)
      (places : Places left right) :
      Moved Places (.missing left wanted) (.missing right wanted)
  | tooMany
      {left right : Nat}
      (quantity : Quantity)
      (places : Places left right) :
      Moved Places (.tooMany left quantity) (.tooMany right quantity)
  | invalidDie
      {left right : Nat}
      (fault : Term.Fault)
      (places : Places left right) :
      Moved Places (.invalidDie left fault) (.invalidDie right fault)

/-- A refusal is placed where it is moved to. -/
theorem Moved.position
    {Places : Nat → Nat → Prop}
    {left right : NotationError}
    (moved : Moved Places left right) :
    Places left.position right.position := by
  cases moved with
  | missing _ places => exact places
  | tooMany _ places => exact places
  | invalidDie _ places => exact places

/-- Results of two runs: related values, or refusals that differ in their place only. -/
inductive Agree
    {Value : Type}
    (Values : Value → Value → Prop)
    (Places : Nat → Nat → Prop) :
    Except NotationError Value → Except NotationError Value → Prop where
  | ok
      {left right : Value}
      (values : Values left right) :
      Agree Values Places (.ok left) (.ok right)
  | error
      {left right : NotationError}
      (moved : Moved Places left right) :
      Agree Values Places (.error left) (.error right)

/-- The same value read, and related cursors left. -/
inductive Ends
    {Value : Type}
    (Related : Cursor → Cursor → Prop) :
    Value × Cursor → Value × Cursor → Prop where
  | same
      (value : Value)
      {left right : Cursor}
      (related : Related left right) :
      Ends Related (value, left) (value, right)

/-- The same group read, and related cursors left. -/
inductive EndsGroup
    (Related : Cursor → Cursor → Prop) :
    Nat × Expression × Cursor → Nat × Expression × Cursor → Prop where
  | same
      (repeats : Nat)
      (expression : Expression)
      {left right : Cursor}
      (related : Related left right) :
      EndsGroup Related (repeats, expression, left) (repeats, expression, right)

theorem Agree.of_error
    {Value : Type}
    {Values : Value → Value → Prop}
    {Places : Nat → Nat → Prop}
    {error : NotationError}
    {result : Except NotationError Value}
    (agree : Agree Values Places (.error error) result) :
    ∃ other, result = .error other ∧ Moved Places error other := by
  cases agree with
  | error moved => exact ⟨_, rfl, moved⟩

theorem Agree.of_ok
    {Value : Type}
    {Related : Cursor → Cursor → Prop}
    {Places : Nat → Nat → Prop}
    {value : Value}
    {left : Cursor}
    {result : Except NotationError (Value × Cursor)}
    (agree : Agree (Ends Related) Places (.ok (value, left)) result) :
    ∃ right, result = .ok (value, right) ∧ Related left right := by
  cases agree with
  | ok ends =>
      cases ends with
      | same _ related => exact ⟨_, rfl, related⟩

theorem Agree.of_okGroup
    {Related : Cursor → Cursor → Prop}
    {Places : Nat → Nat → Prop}
    {repeats : Nat}
    {expression : Expression}
    {left : Cursor}
    {result : Except NotationError (Nat × Expression × Cursor)}
    (agree :
      Agree (EndsGroup Related) Places (.ok (repeats, expression, left)) result) :
    ∃ right, result = .ok (repeats, expression, right) ∧ Related left right := by
  cases agree with
  | ok ends =>
      cases ends with
      | same _ _ related => exact ⟨_, rfl, related⟩

namespace Simulation

variable
  {Related : Cursor → Cursor → Prop}
  {Places : Nat → Nat → Prop}
  {left right : Cursor}

theorem sign
    (simulation : Simulation Related Places)
    (related : Related left right) :
    left.sign.1 = right.sign.1 ∧ Related left.sign.2 right.sign.2 := by
  have minus := simulation.literal '-' (by decide) related
  have plus := simulation.literal '+' (by decide) (simulation.skipBlanks related)
  rw [Cursor.sign_eq, Cursor.sign_eq, ← minus.1]
  split
  · exact ⟨rfl, minus.2⟩
  · exact ⟨rfl, plus.2⟩

theorem signed
    (simulation : Simulation Related Places)
    (related : Related left right) :
    left.signed.1 = right.signed.1 ∧ Related left.signed.2 right.signed.2 := by
  have start := simulation.skipBlanks related
  have sign := simulation.sign start
  have magnitude := simulation.number sign.2
  rw [Cursor.signed_eq, Cursor.signed_eq, ← sign.1, ← magnitude.1]
  split
  · exact ⟨rfl, magnitude.2⟩
  · exact ⟨rfl, start⟩

theorem die
    (simulation : Simulation Related Places)
    (related : Related left right) :
    Agree (Ends Related) Places (die left) (die right) := by
  have count := simulation.number (simulation.skipBlanks related)
  have mark := simulation.literal 'd' (by decide) count.2
  have sides := simulation.number mark.2
  have bonus := simulation.signed sides.2
  rw [die_eq, die_eq]
  dsimp only
  rw [← count.1, ← mark.1, ← sides.1, ← bonus.1]
  split
  · split
    · exact .error (.missing .sides (simulation.place mark.2))
    · split
      · exact .error (.invalidDie _ (simulation.place related))
      · exact .ok (.same _ bonus.2)
  · exact .error (.missing .dieMark (simulation.place count.2))

theorem chain
    (simulation : Simulation Related Places)
    (related : Related left right)
    (position : Nat) :
    Agree (Ends Related) Places (chain position left) (chain position right) := by
  fun_induction Notation.chain position left generalizing right with
  | case1 position left tooMany =>
      rw [chain_eq, if_pos tooMany]
      exact .error (.tooMany .terms (simulation.place related))
  | case2 position left few error refused =>
      have first := simulation.die related
      rw [refused] at first
      obtain ⟨other, refusedRight, moved⟩ := first.of_error
      rw [chain_eq, if_neg few, refusedRight]
      exact .error moved
  | case3 position left few term afterDie read next alone =>
      have first := simulation.die related
      rw [read] at first
      obtain ⟨afterRight, readRight, relatedDie⟩ := first.of_ok
      have mark := simulation.literal '&' (by decide) relatedDie
      rw [alone] at mark
      rw [chain_eq, if_neg few, readRight]
      simp only [← mark.1, Bool.false_eq_true, if_false]
      exact .ok (.same _ mark.2)
  | case4 position left few term afterDie read afterMark joined error refused
      inductionHypothesis =>
      have first := simulation.die related
      rw [read] at first
      obtain ⟨afterRight, readRight, relatedDie⟩ := first.of_ok
      have mark := simulation.literal '&' (by decide) relatedDie
      rw [joined] at mark
      have others := inductionHypothesis mark.2
      rw [refused] at others
      obtain ⟨other, refusedRight, moved⟩ := others.of_error
      rw [chain_eq, if_neg few, readRight]
      simp only [← mark.1, if_true, refusedRight]
      exact .error moved
  | case5 position left few term afterDie read afterMark joined expression next tail
      inductionHypothesis =>
      have first := simulation.die related
      rw [read] at first
      obtain ⟨afterRight, readRight, relatedDie⟩ := first.of_ok
      have mark := simulation.literal '&' (by decide) relatedDie
      rw [joined] at mark
      have others := inductionHypothesis mark.2
      rw [tail] at others
      obtain ⟨nextRight, tailRight, relatedNext⟩ := others.of_ok
      rw [chain_eq, if_neg few, readRight]
      simp only [← mark.1, if_true, tailRight]
      exact .ok (.same _ relatedNext)

theorem repetitions
    (simulation : Simulation Related Places)
    (related : Related left right) :
    (repetitions left).1 = (repetitions right).1 ∧
      Related (repetitions left).2 (repetitions right).2 := by
  have start := simulation.skipBlanks related
  have count := simulation.number start
  have mark := simulation.literal 'x' (by decide) count.2
  rw [repetitions_eq, repetitions_eq, ← count.1, ← mark.1]
  split
  · exact ⟨rfl, start⟩
  · split
    · exact ⟨rfl, mark.2⟩
    · exact ⟨rfl, start⟩

theorem group
    (simulation : Simulation Related Places)
    (related : Related left right)
    (room : Nat) :
    Agree (EndsGroup Related) Places (group room left) (group room right) := by
  have repeats := simulation.repetitions related
  have dice := simulation.chain repeats.2 1
  have place := simulation.place related
  rw [group_eq, group_eq, ← repeats.1]
  split
  · exact .error (.tooMany .expressions place)
  · cases shape : Notation.chain 1 (Notation.repetitions left).2 with
    | error error =>
        rw [shape] at dice
        obtain ⟨other, refused, moved⟩ := dice.of_error
        rw [refused]
        exact .error moved
    | ok reading =>
        rcases reading with ⟨expression, next⟩
        rw [shape] at dice
        obtain ⟨nextRight, read, relatedNext⟩ := dice.of_ok
        simp only [read]
        split
        · exact .error (.tooMany .dice place)
        · exact .ok (.same _ _ relatedNext)

/-- A relation that reading a semicolon keeps too is kept from group to group. -/
theorem groups
    (simulation : Simulation Related Places)
    (semicolon :
      ∀ {left right : Cursor}, Related left right →
        (left.literal [';']).1 = (right.literal [';']).1 ∧
          Related (left.literal [';']).2 (right.literal [';']).2)
    (related : Related left right)
    (before : List Expression) :
    Agree (Ends Related) Places (groups before left) (groups before right) := by
  fun_induction Notation.groups before left generalizing right with
  | case1 before left error refused =>
      have first := simulation.group related (maxExpressions - before.length)
      rw [refused] at first
      obtain ⟨other, refusedRight, moved⟩ := first.of_error
      rw [groups_eq, refusedRight]
      exact .error moved
  | case2 before left repeats expression afterGroup read expressions next =>
      rename_i last
      have first := simulation.group related (maxExpressions - before.length)
      rw [read] at first
      obtain ⟨afterRight, readRight, relatedGroup⟩ := first.of_okGroup
      have mark := semicolon relatedGroup
      rw [last] at mark
      rw [groups_eq, readRight]
      simp only [← mark.1, Bool.false_eq_true, if_false]
      exact .ok (.same _ mark.2)
  | case3 before left repeats expression afterGroup read expressions afterMark more =>
      rename_i inductionHypothesis
      have first := simulation.group related (maxExpressions - before.length)
      rw [read] at first
      obtain ⟨afterRight, readRight, relatedGroup⟩ := first.of_okGroup
      have mark := semicolon relatedGroup
      rw [more] at mark
      rw [groups_eq before right, readRight]
      simp only [← mark.1, if_true]
      exact inductionHypothesis mark.2

end Simulation

end DiceCup.Notation
