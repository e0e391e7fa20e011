import DiceCup.Proofs.Random.Window
import DiceCup.Proofs.Roll.Provenance
import DiceCup.Random.Tape

/-!
# Dice are fair

A tape of words decides what a roll shows.  A die takes the first word that it accepts and passes over
the words in front of it (`run_throw_cons`), so words that are not accepted change no face wherever
they are put in (`Outcome.fst_throwDice_padded`).  A term that takes just one word for each of its
dice shows the faces that these words choose (`Term.draws_iff`), and any faces are chosen by as many
sequences of words as any others.  So no faces are likelier than others (`roll_fair`).
-/

namespace DiceCup

/-! ## Sources -/

theorem WordSource.run_first
    {σ : Type}
    [WordSource σ]
    (acceptable : UInt32 → Bool)
    (source : σ) :
    (first acceptable).run source =
      (firstWithin acceptable (horizon source)).run source :=
  rfl

theorem WordSource.run_firstWithin_succ
    {σ : Type}
    [WordSource σ]
    (acceptable : UInt32 → Bool)
    (draws : Nat)
    (source : σ) :
    (firstWithin acceptable (draws + 1)).run source =
      if acceptable (next.run source).1 then
        next.run source
      else
        (firstWithin acceptable draws).run (next.run source).2 := by
  show (StateT.run (if acceptable (next.run source).1 then pure (next.run source).1 else _) _) = _
  split <;> rfl

theorem Face.run_throw
    {σ : Type}
    [WordSource σ]
    (sides : Nat)
    (source : σ) :
    (throw sides).run source =
      (ofWord sides ((WordSource.first (accepts sides)).run source).1,
        ((WordSource.first (accepts sides)).run source).2) :=
  rfl

/-- A die leaves the source where its word was found. -/
theorem Face.snd_run_throw
    {σ : Type}
    [WordSource σ]
    (sides : Nat)
    (source : σ) :
    ((throw sides).run source).2 =
      ((WordSource.firstWithin (accepts sides) (WordSource.horizon source)).run source).2 :=
  rfl

/-- A source of words throws its dice by the faces of its words. -/
theorem dieSource_throw_eq
    {σ : Type}
    [WordSource σ]
    (sides : Nat) :
    (DieSource.throw sides : StateM σ Nat) = Face.throw sides :=
  rfl

theorem Outcome.run_throwDice_succ
    {σ : Type}
    [DieSource σ]
    (sides count : Nat)
    (outcome : Outcome)
    (source : σ) :
    (throwDice sides (count + 1) outcome).run source =
      (throwDice sides count (outcome.push ((DieSource.throw sides).run source).1)).run
        ((DieSource.throw sides).run source).2 :=
  rfl

/-! ## Dice from a tape -/

/-- The tape that goes on after some words. -/
def Tape.after
    (words : List UInt32)
    (more : Tape) :
    Tape :=
  { more with words := words ++ more.words }

namespace Face

/-- A die takes the next word if it accepts it, and goes on behind that word otherwise. -/
theorem run_throw_cons
    (sides : Nat)
    (word : UInt32)
    (others : List UInt32)
    (last : UInt32) :
    (throw sides).run (⟨word :: others, last⟩ : Tape) =
      if accepts sides word then
        (ofWord sides word, ⟨others, last⟩)
      else
        (throw sides).run ⟨others, last⟩ := by
  have draws :
      WordSource.horizon (⟨word :: others, last⟩ : Tape) =
        WordSource.horizon (⟨others, last⟩ : Tape) + 1 :=
    Nat.add_right_comm _ _ _
  have drawn :
      WordSource.next.run (⟨word :: others, last⟩ : Tape) = (word, ⟨others, last⟩) :=
    rfl
  rw [run_throw, run_throw, WordSource.run_first, draws, WordSource.run_firstWithin_succ, drawn]
  split
  · rfl
  · rw [WordSource.run_first]

/-- The words in front of a tape are drawn first. -/
theorem run_throw_after
    (sides : Nat)
    (word : UInt32)
    (words : List UInt32)
    (more : Tape) :
    (throw sides).run (more.after (word :: words)) =
      if accepts sides word then
        (ofWord sides word, more.after words)
      else
        (throw sides).run (more.after words) := by
  have whole :
      more.after (word :: words) = ⟨word :: (words ++ more.words), more.last⟩ :=
    rfl
  have others : more.after words = ⟨words ++ more.words, more.last⟩ :=
    rfl
  rw [whole, others, run_throw_cons]

/-- A tape without written words has none afterwards either. -/
theorem words_firstWithin_nil
    (acceptable : UInt32 → Bool)
    (draws : Nat)
    (last : UInt32) :
    ((WordSource.firstWithin acceptable draws).run (⟨[], last⟩ : Tape)).2.words = [] := by
  induction draws generalizing last with
  | zero => rfl
  | succ draws inductionHypothesis =>
      rw [WordSource.run_firstWithin_succ]
      split
      · rfl
      · exact inductionHypothesis (Tape.follow last)

/-- A die takes a written word at least, if there is one. -/
theorem length_words_throw_le
    (sides : Nat)
    (tape : Tape) :
    ((throw sides).run tape).2.words.length ≤ tape.words.length - 1 := by
  rcases tape with ⟨words, last⟩
  induction words with
  | nil =>
      rw [snd_run_throw, words_firstWithin_nil]
      exact Nat.le_refl _
  | cons word others inductionHypothesis =>
      rw [run_throw_cons]
      split
      · exact Nat.le_refl _
      · exact Nat.le_trans inductionHypothesis (Nat.sub_le _ _)

end Face

theorem Outcome.length_words_throwDice_le
    (sides count : Nat)
    (outcome : Outcome)
    (tape : Tape) :
    ((throwDice sides count outcome).run tape).2.words.length ≤ tape.words.length - count := by
  induction count generalizing outcome tape with
  | zero => exact Nat.le_refl _
  | succ count inductionHypothesis =>
      have first := Face.length_words_throw_le sides tape
      have others :=
        inductionHypothesis (outcome.push ((DieSource.throw sides).run tape).1)
          ((DieSource.throw sides).run tape).2
      rw [← dieSource_throw_eq] at first
      rw [run_throwDice_succ]
      exact Nat.le_trans others (by omega)

/-! ## Words that are put in -/

namespace Face

/-- Words with more words put in between, none of which is accepted. -/
inductive Padded
    (sides : Nat) :
    List UInt32 → List UInt32 → Prop where
  | same
      (words : List UInt32) :
      Padded sides words words
  | keep
      (word : UInt32)
      {plain padded : List UInt32}
      (others : Padded sides plain padded) :
      Padded sides (word :: plain) (word :: padded)
  | insert
      {word : UInt32}
      (rejected : accepts sides word = false)
      {plain padded : List UInt32}
      (others : Padded sides plain padded) :
      Padded sides plain (word :: padded)

/-- A die shows the same face with the words that are put in, and takes them off if it meets them. -/
theorem Padded.exists_throw
    {sides : Nat}
    {plain padded : List UInt32}
    (pad : Padded sides plain padded)
    (last : UInt32) :
    ∃ (face : Nat) (plainLeft paddedLeft : List UInt32) (lastLeft : UInt32),
      (throw sides).run (⟨plain, last⟩ : Tape) = (face, ⟨plainLeft, lastLeft⟩) ∧
        (throw sides).run (⟨padded, last⟩ : Tape) = (face, ⟨paddedLeft, lastLeft⟩) ∧
        Padded sides plainLeft paddedLeft := by
  induction pad with
  | same words =>
      rcases (throw sides).run (⟨words, last⟩ : Tape) with ⟨face, left, lastLeft⟩
      exact ⟨face, left, left, lastLeft, rfl, rfl, .same left⟩
  | @keep word plain padded others inductionHypothesis =>
      rw [run_throw_cons, run_throw_cons]
      by_cases accepted : accepts sides word = true
      · rw [if_pos accepted, if_pos accepted]
        exact ⟨ofWord sides word, plain, padded, last, rfl, rfl, others⟩
      · rw [if_neg accepted, if_neg accepted]
        exact inductionHypothesis
  | insert rejected others inductionHypothesis =>
      rw [run_throw_cons, rejected, if_neg Bool.false_ne_true]
      exact inductionHypothesis

end Face

theorem Outcome.fst_throwDice_padded
    {sides : Nat}
    {plain padded : List UInt32}
    (pad : Face.Padded sides plain padded)
    (count : Nat)
    (outcome : Outcome)
    (last : UInt32) :
    ((throwDice sides count outcome).run (⟨padded, last⟩ : Tape)).1 =
      ((throwDice sides count outcome).run (⟨plain, last⟩ : Tape)).1 := by
  induction count generalizing plain padded outcome last with
  | zero => rfl
  | succ count inductionHypothesis =>
      obtain ⟨face, plainLeft, paddedLeft, lastLeft, plainThrown, paddedThrown, left⟩ :=
        pad.exists_throw last
      rw [run_throwDice_succ, run_throwDice_succ, dieSource_throw_eq, plainThrown, paddedThrown]
      exact inductionHypothesis left (outcome.push face) lastLeft

/-! ## One word for each die -/

/-- The dice of a term are thrown with these words, all of them and no others, and show the faces. -/
def Term.Draws
    (term : Term)
    (words : List UInt32)
    (faces : List Nat) :
    Prop :=
  ∀ more : Tape,
    ∃ outcome : Outcome,
      term.roll.run (more.after words) = (outcome, more) ∧ outcome.rolls.toList = faces

/-- Dice show the faces that their words choose. -/
theorem Outcome.run_throwDice_of_chosen
    {sides : Nat}
    {faces : List Nat}
    {words : List UInt32}
    (chosen : List.Forall₂ (Face.Chooses sides) faces words)
    (bonuses : List Int)
    (before : List Nat)
    (more : Tape) :
    (throwDice sides words.length (.ofParts bonuses before)).run (more.after words) =
      (.ofParts bonuses (before ++ faces), more) := by
  induction chosen generalizing before with
  | nil =>
      rw [List.append_nil]
      rfl
  | @cons face word faces words chooses _ inductionHypothesis =>
      rw [List.length_cons, run_throwDice_succ, dieSource_throw_eq, Face.run_throw_after,
        if_pos chooses.accepted, chooses.face_eq, push_ofParts, inductionHypothesis,
        List.append_assoc, List.singleton_append]

/-- Dice that leave all words behind theirs draw none again. -/
theorem Outcome.accepts_of_throwDice
    {sides : Nat}
    {words : List UInt32}
    {outcome : Outcome}
    {more : Tape}
    (written : more.words ≠ [])
    (left : ((throwDice sides words.length outcome).run (more.after words)).2 = more) :
    ∀ word ∈ words, Face.accepts sides word = true := by
  induction words generalizing outcome with
  | nil => exact List.forall_mem_nil _
  | cons word words inductionHypothesis =>
      rw [List.length_cons, run_throwDice_succ, dieSource_throw_eq, Face.run_throw_after] at left
      cases accepted : Face.accepts sides word with
      | true =>
          rw [accepted, if_pos rfl] at left
          exact List.forall_mem_cons.mpr ⟨accepted, inductionHypothesis left⟩
      | false =>
          rw [accepted, if_neg Bool.false_ne_true] at left
          generalize thrown : (Face.throw sides).run (more.after words) = die at left
          -- Two words are taken for this die, so the others reach behind their own words.
          have here := Face.length_words_throw_le sides (more.after words)
          have others :=
            length_words_throwDice_le sides words.length (outcome.push die.1) die.2
          have start : (more.after words).words.length = words.length + more.words.length :=
            List.length_append
          have some : 0 < more.words.length := List.length_pos_iff.mpr written
          rw [left] at others
          rw [thrown, start] at here
          omega

/-- One word for each die: the dice show given faces when each word chooses the face of its die. -/
theorem Term.draws_iff
    {term : Term}
    {words : List UInt32}
    {faces : List Nat}
    (many : words.length = term.count) :
    term.Draws words faces ↔ List.Forall₂ (Face.Chooses term.sides) faces words := by
  have rolled :
      ∀ {shown : List Nat} (more : Tape),
        List.Forall₂ (Face.Chooses term.sides) shown words →
          term.roll.run (more.after words) = (.ofParts [term.bonus] shown, more) := by
    intro shown more chosen
    rw [Term.roll, Outcome.ofModifier_eq_ofParts, ← many,
      Outcome.run_throwDice_of_chosen chosen, List.nil_append]
  constructor
  · intro draws
    have accepted : ∀ word ∈ words, Face.accepts term.sides word = true := by
      obtain ⟨outcome, run, -⟩ := draws ⟨[0], 0⟩
      rw [Term.roll, ← many] at run
      have left := congrArg Prod.snd run
      exact Outcome.accepts_of_throwDice (List.cons_ne_nil _ _) left
    have chosen :
        List.Forall₂ (Face.Chooses term.sides) (words.map (Face.ofWord term.sides)) words := by
      rw [List.forall₂_map_left_iff, List.forall₂_same]
      intro word member
      exact ⟨accepted word member, rfl⟩
    obtain ⟨outcome, run, shown⟩ := draws ⟨[], 0⟩
    rw [rolled _ chosen] at run
    cases run
    rw [← shown]
    exact chosen
  · intro chosen more
    exact ⟨_, rolled more chosen, rfl⟩

/-! ## Fairness -/

/--
Dice are fair.  The word that is drawn is taken when the low half of its product with the number of
sides is in the zone, and its high half is then the face; any other word is passed over.  Whatever
faces the dice of a term can show, they show them for the same number of sequences of one word for
each die.  Words that are passed over change nothing of a roll, wherever they come.
-/
theorem roll_fair
    (term : Term)
    (faces : List Nat)
    (shows : term.Shows faces) :
    (∀ (word : UInt32) (others : List UInt32) (last : UInt32),
        (DieSource.throw term.sides).run (⟨word :: others, last⟩ : Tape) =
          if word.toNat * term.sides % 2 ^ 32 ≤
              term.sides * 2 ^ Face.leadingZeros term.sides - 1 then
            (1 + word.toNat * term.sides / 2 ^ 32, ⟨others, last⟩)
          else
            (DieSource.throw term.sides).run ⟨others, last⟩) ∧
      {words : List UInt32 | words.length = term.count ∧ term.Draws words faces}.ncard =
        (2 ^ Face.leadingZeros term.sides) ^ term.count ∧
      ∀ (plain padded : List UInt32) (last : UInt32),
        Face.Padded term.sides plain padded →
          (term.roll.run (⟨padded, last⟩ : Tape)).1 =
            (term.roll.run (⟨plain, last⟩ : Tape)).1 := by
  refine ⟨?_, ?_, ?_⟩
  · intro word others last
    have zone := Face.accepts_iff_zone term.sides_pos term.sides_lt word
    rw [dieSource_throw_eq, Face.run_throw_cons]
    by_cases accepted : Face.accepts term.sides word = true
    · rw [if_pos accepted, if_pos (zone.mp accepted)]
      rfl
    · rw [if_neg accepted, if_neg fun inside => accepted (zone.mpr inside)]
  · have same :
        {words : List UInt32 | words.length = term.count ∧ term.Draws words faces} =
          {words | List.Forall₂ (Face.Chooses term.sides) faces words} := by
      ext words
      constructor
      · rintro ⟨many, draws⟩
        exact (Term.draws_iff many).mp draws
      · intro chosen
        have many : words.length = term.count := chosen.length_eq.symm.trans shows.length_eq
        exact ⟨many, (Term.draws_iff many).mpr chosen⟩
    rw [same, ← shows.length_eq]
    apply Face.ncard_forall₂
    intro face member
    obtain ⟨first_le, le_last⟩ := shows.mem_sides face member
    exact Face.ncard_chooses term.sides_pos term.sides_lt first_le le_last
  · intro plain padded last pad
    exact Outcome.fst_throwDice_padded pad term.count _ last

/-- Two dice with twenty sides. -/
def twoTwentySided :
    Term :=
  WrittenTerm.term ⟨2, 20, 0⟩ ⟨by decide, by decide, by decide⟩

/-- A one and a twenty are shown for as many pairs of words as any two faces. -/
theorem roll_fair_one_and_twenty :
    twoTwentySided.Shows [1, 20] ∧
      {words : List UInt32 | words.length = 2 ∧ twoTwentySided.Draws words [1, 20]}.ncard =
        (2 ^ 27) ^ 2 ∧
      Face.Padded 20 [0, 4080218932] [4294967295, 0, 1431655765, 4080218932] ∧
      (twoTwentySided.roll.run
          (⟨[4294967295, 0, 1431655765, 4080218932], 0⟩ : Tape)).1 =
        (twoTwentySided.roll.run (⟨[0, 4080218932], 0⟩ : Tape)).1 := by
  have shows : twoTwentySided.Shows [1, 20] := ⟨rfl, by decide⟩
  have pad : Face.Padded 20 [0, 4080218932] [4294967295, 0, 1431655765, 4080218932] :=
    .insert (by decide +kernel)
      (.keep 0 (.insert (by decide +kernel) (.keep 4080218932 (.same []))))
  have fair := roll_fair twoTwentySided [1, 20] shows
  have count := fair.2.1
  have zeros : Face.leadingZeros twoTwentySided.sides = 27 := by decide +kernel
  rw [zeros] at count
  exact ⟨shows, count, pad, fair.2.2 [0, 4080218932] _ 0 pad⟩

end DiceCup
