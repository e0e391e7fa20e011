import DiceCup.Notation.Error
import DiceCup.Dice.Expression
import DiceCup.Proofs.Notation.Token

/-!
# The grammar of dice notation

The grammar says which token sequences are notations, without saying how they are read:

```text
roll  ::= group (";" group)*
group ::= [uint "x"] dice
dice  ::= die [bonus] ["&" dice]
die   ::= [uint] "d" uint
bonus ::= ["+" | "-"] uint
```

Each rule is a relation between tokens and what they write: plain words, which may lie outside the
limits.  `WithinLimits` says when written groups make expressions, and `meaning` says which ones.
-/

namespace DiceCup

open Text

/-- A die with its bonus as it is written, whether it makes a term or not. -/
structure WrittenTerm where
  count : UInt32
  sides : UInt32
  bonus : Int32
deriving DecidableEq

/-- A group as it is written: a chain of at least one die, and how often it is repeated. -/
structure WrittenGroup where
  repeats : UInt32
  first : WrittenTerm
  others : List WrittenTerm
deriving DecidableEq

/-! ## What is written -/

namespace Notation.Grammar

/-- A number without a sign, which is a word of 32 bits. -/
inductive Uint : List Token → UInt32 → Prop where
  | digits
      {run : List Char}
      {value : UInt32}
      (numeral : natural? run = some value.toNat) :
      Uint [.digits run] value

/-- A number that may have a sign, which is a signed word of 32 bits. -/
inductive Bonus : List Token → Int32 → Prop where
  | plain
      {tokens : List Token}
      {magnitude : UInt32}
      {bonus : Int32}
      (number : Uint tokens magnitude)
      (value : bonus.toInt = magnitude.toNat) :
      Bonus tokens bonus
  | plus
      {tokens : List Token}
      {magnitude : UInt32}
      {bonus : Int32}
      (number : Uint tokens magnitude)
      (value : bonus.toInt = magnitude.toNat) :
      Bonus (.mark '+' :: tokens) bonus
  | minus
      {tokens : List Token}
      {magnitude : UInt32}
      {bonus : Int32}
      (number : Uint tokens magnitude)
      (value : bonus.toInt = -(magnitude.toNat : Int)) :
      Bonus (.mark '-' :: tokens) bonus

/-- A part that may be left out, and that has a value then too. -/
inductive Optional
    {Value : Type}
    (Written : List Token → Value → Prop)
    (default : Value) :
    List Token → Value → Prop where
  | absent : Optional Written default [] default
  | present
      {tokens : List Token}
      {value : Value}
      (written : Written tokens value) :
      Optional Written default tokens value

/-- A die: its number of dice, which is one if it is left out, and its number of sides. -/
inductive Die : List Token → UInt32 → UInt32 → Prop where
  | die
      {countTokens sidesTokens : List Token}
      {count sides : UInt32}
      (countWritten : Optional Uint 1 countTokens count)
      (sidesWritten : Uint sidesTokens sides) :
      Die (countTokens ++ .mark 'd' :: sidesTokens) count sides

/-- A chain of dice, of which the first one is told apart. -/
inductive Dice : List Token → WrittenTerm → List WrittenTerm → Prop where
  | last
      {dieTokens bonusTokens : List Token}
      {count sides : UInt32}
      {bonus : Int32}
      (die : Die dieTokens count sides)
      (bonusWritten : Optional Bonus 0 bonusTokens bonus) :
      Dice (dieTokens ++ bonusTokens) ⟨count, sides, bonus⟩ []
  | joined
      {dieTokens bonusTokens chainTokens : List Token}
      {count sides : UInt32}
      {bonus : Int32}
      {second : WrittenTerm}
      {others : List WrittenTerm}
      (die : Die dieTokens count sides)
      (bonusWritten : Optional Bonus 0 bonusTokens bonus)
      (chain : Dice chainTokens second others) :
      Dice (dieTokens ++ bonusTokens ++ .mark '&' :: chainTokens)
        ⟨count, sides, bonus⟩ (second :: others)

/-- A chain of dice, which a number and an `x` in front of it repeat. -/
inductive Group : List Token → WrittenGroup → Prop where
  | once
      {tokens : List Token}
      {first : WrittenTerm}
      {others : List WrittenTerm}
      (dice : Dice tokens first others) :
      Group tokens ⟨1, first, others⟩
  | repeated
      {repeatsTokens diceTokens : List Token}
      {repeats : UInt32}
      {first : WrittenTerm}
      {others : List WrittenTerm}
      (repeatsWritten : Uint repeatsTokens repeats)
      (dice : Dice diceTokens first others) :
      Group (repeatsTokens ++ .mark 'x' :: diceTokens) ⟨repeats, first, others⟩

/-- Groups with semicolons between them. -/
inductive Roll : List Token → List WrittenGroup → Prop where
  | last
      {tokens : List Token}
      {group : WrittenGroup}
      (written : Group tokens group) :
      Roll tokens [group]
  | more
      {groupTokens rollTokens : List Token}
      {group : WrittenGroup}
      {groups : List WrittenGroup}
      (written : Group groupTokens group)
      (roll : Roll rollTokens groups) :
      Roll (groupTokens ++ .mark ';' :: rollTokens) (group :: groups)

end Notation.Grammar

/-! ## What it stands for -/

namespace WrittenTerm

/-- The limits on the numbers of one die. -/
structure Valid
    (written : WrittenTerm) :
    Prop where
  count_pos : 0 < written.count.toNat
  count_le : written.count.toNat ≤ 10000
  two_le_sides : 2 ≤ written.sides.toNat

/-- The term that a die within the limits writes. -/
def term
    (written : WrittenTerm)
    (valid : written.Valid) :
    Term where
  count := written.count.toNat
  sides := written.sides.toNat
  bonus := written.bonus.toInt
  count_pos := valid.count_pos
  count_le := valid.count_le
  two_le_sides := valid.two_le_sides
  sides_lt := written.sides.toNat_lt
  le_bonus := written.bonus.minValue_le_toInt
  bonus_le := written.bonus.toInt_le

/-- The number of dice of some written dice together. -/
def countAll :
    List WrittenTerm → Nat
  | [] => 0
  | written :: others => written.count.toNat + countAll others

end WrittenTerm

namespace WrittenGroup

/-- All dice of a group, from left to right. -/
def terms
    (group : WrittenGroup) :
    List WrittenTerm :=
  group.first :: group.others

/-- The limits on one group. -/
structure Valid
    (group : WrittenGroup) :
    Prop where
  terms : ∀ written ∈ group.terms, written.Valid
  length_le : group.terms.length ≤ 100
  dice_le : WrittenTerm.countAll group.terms ≤ 10000

end WrittenGroup

/-- The expression of a chain of dice within the limits, which leans to the right. -/
def chainExpression
    (first : WrittenTerm)
    (others : List WrittenTerm)
    (valid : ∀ written ∈ first :: others, written.Valid) :
    Expression :=
  .ofTerms (first.term (valid first List.mem_cons_self))
    (others.pmap WrittenTerm.term fun written member =>
      valid written (List.mem_cons_of_mem first member))

/-- The expression that one group stands for, its repetitions apart. -/
def WrittenGroup.expression
    (group : WrittenGroup)
    (valid : group.Valid) :
    Expression :=
  chainExpression group.first group.others valid.terms

/-- The expressions that one group stands for. -/
def WrittenGroup.expressions
    (group : WrittenGroup)
    (valid : group.Valid) :
    List Expression :=
  List.replicate group.repeats.toNat (group.expression valid)

/-- How many expressions some groups stand for together. -/
def repeatsAll :
    List WrittenGroup → Nat
  | [] => 0
  | group :: groups => group.repeats.toNat + repeatsAll groups

/-- The limits on a whole notation. -/
structure WithinLimits
    (groups : List WrittenGroup) :
    Prop where
  valid : ∀ group ∈ groups, group.Valid
  repeats_le : repeatsAll groups ≤ 1000

/-- The expressions that groups within the limits stand for, in the order they are written. -/
def meaning
    (groups : List WrittenGroup)
    (valid : ∀ group ∈ groups, group.Valid) :
    List Expression :=
  (groups.pmap WrittenGroup.expressions valid).flatten

/-! ## What breaks a limit -/

/-- A refusal for a limit that a group breaks by itself. -/
def WrittenGroup.Breaks
    (group : WrittenGroup) :
    NotationError → Prop
  | .tooMany _ .terms => 100 < group.terms.length
  | .tooMany _ .dice => 10000 < WrittenTerm.countAll group.terms
  | .invalidDie _ fault =>
    ∃ written ∈ group.terms,
      ¬ written.Valid ∧
        Term.make written.count written.sides written.bonus = .error fault
  | _ => False

/-- A refusal for a limit that some groups break. -/
def BreaksLimit
    (groups : List WrittenGroup)
    (error : NotationError) :
    Prop :=
  (∃ group ∈ groups, group.Breaks error) ∨
    (∃ place : Nat, error = .tooMany place .expressions) ∧ 1000 < repeatsAll groups

/-! ## Small facts -/

namespace WrittenTerm

/-- A die makes a term when its numbers are within the limits. -/
theorem make_of_valid
    {written : WrittenTerm}
    (valid : written.Valid) :
    Term.make written.count written.sides written.bonus = .ok (written.term valid) := by
  rw [Term.make_eq_ok_iff]
  exact ⟨rfl, rfl, rfl⟩

/-- A die that makes a term is within the limits. -/
theorem term_of_make
    {count sides : UInt32}
    {bonus : Int32}
    {term : Term}
    (made : Term.make count sides bonus = .ok term) :
    ∃ valid : Valid ⟨count, sides, bonus⟩, term = WrittenTerm.term ⟨count, sides, bonus⟩ valid := by
  have numbers := Term.make_eq_ok_iff.mp made
  have valid : Valid ⟨count, sides, bonus⟩ := {
    count_pos := numbers.1 ▸ term.count_pos
    count_le := numbers.1 ▸ term.count_le
    two_le_sides := numbers.2.1 ▸ term.two_le_sides }
  have same := make_of_valid valid
  rw [made] at same
  injection same with same
  exact ⟨valid, same⟩

theorem not_valid_of_make
    {written : WrittenTerm}
    {fault : Term.Fault}
    (refused : Term.make written.count written.sides written.bonus = .error fault) :
    ¬ written.Valid := by
  intro valid
  rw [make_of_valid valid] at refused
  cases refused

theorem countAll_pmap
    (terms : List WrittenTerm)
    (valid : ∀ written ∈ terms, written.Valid) :
    Term.countAll (terms.pmap WrittenTerm.term valid) = countAll terms := by
  induction terms with
  | nil => rfl
  | cons written others inductionHypothesis =>
      rw [List.pmap_cons, Term.countAll_cons, countAll, inductionHypothesis]
      rfl

end WrittenTerm

theorem terms_chainExpression
    {first : WrittenTerm}
    {others : List WrittenTerm}
    (valid : ∀ written ∈ first :: others, written.Valid) :
    (chainExpression first others valid).terms =
      (first :: others).pmap WrittenTerm.term valid :=
  Expression.terms_ofTerms _ _

theorem WrittenGroup.terms_expression
    {group : WrittenGroup}
    (valid : group.Valid) :
    (group.expression valid).terms = group.terms.pmap WrittenTerm.term valid.terms :=
  terms_chainExpression valid.terms

/-- The dice of an expression are those of the chain that it is written as. -/
theorem diceCount_chainExpression
    {first : WrittenTerm}
    {others : List WrittenTerm}
    (valid : ∀ written ∈ first :: others, written.Valid) :
    (chainExpression first others valid).diceCount =
      WrittenTerm.countAll (first :: others) := by
  rw [Expression.diceCount, terms_chainExpression, WrittenTerm.countAll_pmap]

/-- Groups stand for as many expressions as they are repeated. -/
theorem length_meaning
    {groups : List WrittenGroup}
    (valid : ∀ group ∈ groups, group.Valid) :
    (meaning groups valid).length = repeatsAll groups := by
  induction groups with
  | nil => rfl
  | cons group groups inductionHypothesis =>
      have rest := inductionHypothesis fun other member =>
        valid other (List.mem_cons_of_mem group member)
      rw [meaning] at rest ⊢
      rw [List.pmap_cons, List.flatten_cons, List.length_append, rest,
        WrittenGroup.expressions, List.length_replicate, repeatsAll]

/-- What groups stand for is written as one of them. -/
theorem exists_group_of_mem_meaning
    {groups : List WrittenGroup}
    {valid : ∀ group ∈ groups, group.Valid}
    {expression : Expression}
    (member : expression ∈ meaning groups valid) :
    ∃ (group : WrittenGroup) (groupValid : group.Valid),
      expression = group.expression groupValid := by
  rw [meaning, List.mem_flatten] at member
  obtain ⟨expressions, among, member⟩ := member
  rw [List.mem_pmap] at among
  obtain ⟨group, here, rfl⟩ := among
  exact ⟨group, valid group here, List.eq_of_mem_replicate member⟩

end DiceCup
