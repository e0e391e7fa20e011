import DiceCup.Proofs.Notation.Limits
import DiceCup.Proofs.Session.Rounds
import DiceCup.Proofs.Text.Listing
import DiceCup.Random.Tape

/-!
# Names of entries

A name in front of a notation is printed and has no other effect.  With the name or without it, the
same notation is read, the same dice are drawn, and the same is reported.  The lines of every round
only move behind a space, below a line with the name (`rollEntries_named`).

The name may hold anything, equals signs too: the notation is what follows the last of them, and it
is handed to the parser as it is written, so that places in it mean the same.
-/

namespace DiceCup

/-! ## Names without the blanks around them -/

/-- What is left of a text without the blanks around it, which may be nothing. -/
structure Text.TrimsTo
    (text label : List Char) :
    Prop where
  parts :
    ∃ before after : List Char,
      AllBlank before ∧ AllBlank after ∧ text = before ++ label ++ after
  head : ∀ char ∈ label.head?, isBlank char = false
  last : ∀ char ∈ label.getLast?, isBlank char = false

theorem Text.trimsTo_trimBlanks
    (text : List Char) :
    TrimsTo text (trimBlanks text) where
  parts := exists_blanks_around text
  head := by
    intro char member
    exact (trimmed_trimBlanks fun empty => by simp [empty] at member).head char member
  last := by
    intro char member
    exact (trimmed_trimBlanks fun empty => by simp [empty] at member).last char member

/-! ## Rounds below a name -/

namespace Round

variable
  (expressions : List Expression)
  (outcomes : List Outcome)

theorem lines_unnamed :
    lines ⟨⟨none, expressions⟩, outcomes⟩ =
      List.zipWith (fun expression outcome => expression.render ++ "  =>  " ++ outcome.render)
        expressions outcomes := by
  simp [lines, indent]

theorem lines_named
    (label : String) :
    lines ⟨⟨some label, expressions⟩, outcomes⟩ =
      label ::
        (List.zipWith (fun expression outcome => expression.render ++ "  =>  " ++ outcome.render)
          expressions outcomes).map (" " ++ ·) := by
  simp [lines, indent, List.map_zipWith]

end Round

/-- What a request rolls in its rounds does not depend on its name. -/
theorem run_mapM_roll_replicate
    {σ : Type}
    [DieSource σ]
    (times : Nat)
    (request : Request)
    (source : σ) :
    let rolled := ((List.replicate times request.expressions).mapM rollEach).run source
    ((List.replicate times request).mapM Request.roll).run source =
      (rolled.1.map (Round.mk request), rolled.2) := by
  induction times generalizing source with
  | zero => rfl
  | succ times inductionHypothesis =>
      simp only [List.replicate_succ, run_mapM_cons, run_roll, inductionHypothesis, List.map_cons]

namespace Session

section Sessions

variable
  {σ : Type}
  [DieSource σ]
  (verbose : Bool)
  (times : Nat)

/-- A run of one entry is what the entry makes. -/
theorem rollEntries_singleton
    (written : String)
    (source : σ) :
    rollEntries verbose times [written] (start source) = ofEntry verbose times written source := by
  rw [rollEntries_cons]
  exact join_start _

/-- An entry makes the rounds of its expressions, with its name above each of them. -/
theorem ofEntry_of_rounds
    {written : String}
    {request : Request}
    (asked : Request.ofEntry? written = some request)
    (source : σ) :
    let rolled := ((List.replicate times request.expressions).mapM rollEach).run source
    ofEntry verbose times written source =
      { source := rolled.2
        printed := (rolled.1.flatMap fun outcomes => (Round.mk request outcomes).lines).toArray
        reported :=
          if verbose then
            (rolled.1.flatMap fun outcomes =>
              (List.zipWith Expression.trace request.expressions outcomes).flatten).toArray
          else
            #[]
        complete := true } := by
  rw [ofEntry_of_request verbose times asked]
  simp only [run_mapM_roll_replicate, ofRounds, List.flatMap_map, Round.traces]

end Sessions

/--
A name only changes the layout.  With it or without it an entry reports the same lines, is complete
in the same cases and leaves the same source.  If its notation is refused, nothing is printed.
Otherwise it is rolled in as many rounds as it is to be rolled times, which print the same lines in
both cases, one for each expression; but with the name, a space stands in front of each line, and a
line with the name, without the blanks around it, stands above each round.
-/
theorem rollEntries_named
    {σ : Type}
    [DieSource σ]
    (name : String)
    {text : String}
    (unmarked : '=' ∉ text.toList)
    (verbose : Bool)
    (times : Nat)
    (source : σ) :
    let named := rollEntries verbose times [name ++ "=" ++ text] (start source)
    let plain := rollEntries verbose times [text] (start source)
    let label := String.ofList (Text.trimBlanks name.toList)
    let line (expression : Expression) (outcome : Outcome) : String :=
      expression.render ++ "  =>  " ++ outcome.render
    Text.TrimsTo name.toList label.toList ∧
      (named.reported = plain.reported ∧
        named.complete = plain.complete ∧
        named.source = plain.source) ∧
      (∀ error : NotationError,
        parse text = .error error → named.printed = #[] ∧ plain.printed = #[]) ∧
      ∀ expressions : List Expression,
        parse text = .ok expressions →
          ∃ rounds : List (List Outcome),
            rounds.length = times ∧
              (∀ outcomes ∈ rounds, outcomes.length = expressions.length) ∧
              plain.printed.toList = rounds.flatMap (List.zipWith line expressions) ∧
              named.printed.toList =
                rounds.flatMap fun outcomes =>
                  label :: (List.zipWith line expressions outcomes).map (" " ++ ·) := by
  intro named plain label line
  have namedEntry : Entry.ofString (name ++ "=" ++ text) = ⟨some label, text⟩ :=
    Entry.ofString_of_marked unmarked name
  have plainEntry : Entry.ofString text = ⟨none, text⟩ := Entry.ofString_of_unmarked unmarked
  have trims : Text.TrimsTo name.toList label.toList := by
    rw [String.toList_ofList]
    exact Text.trimsTo_trimBlanks name.toList
  refine ⟨trims, ?_⟩
  simp only [named, plain, rollEntries_singleton]
  cases parsed : parse text with
  | error error =>
      have namedRefused : parse (Entry.ofString (name ++ "=" ++ text)).text = .error error := by
        rw [namedEntry, parsed]
      have plainRefused : parse (Entry.ofString text).text = .error error := by
        rw [plainEntry, parsed]
      rw [ofEntry_of_error verbose times namedRefused, ofEntry_of_error verbose times plainRefused,
        namedEntry, plainEntry]
      refine ⟨⟨rfl, rfl, rfl⟩, ?_, ?_⟩
      · exact fun _ _ => ⟨rfl, rfl⟩
      · rintro _ ⟨⟩
  | ok expressions =>
      have namedAsks :
          Request.ofEntry? (name ++ "=" ++ text) = some ⟨some label, expressions⟩ := by
        simp only [Request.ofEntry?, namedEntry, parsed]
      have plainAsks : Request.ofEntry? text = some ⟨none, expressions⟩ := by
        simp only [Request.ofEntry?, plainEntry, parsed]
      rw [ofEntry_of_rounds verbose times namedAsks, ofEntry_of_rounds verbose times plainAsks]
      refine ⟨⟨rfl, rfl, rfl⟩, ?_, ?_⟩
      · rintro _ ⟨⟩
      · rintro _ ⟨⟩
        refine ⟨(((List.replicate times expressions).mapM rollEach).run source).1, ?_, ?_, ?_, ?_⟩
        · rw [length_run_mapM, List.length_replicate]
        · intro outcomes member
          refine of_mem_run_mapM (fun rolled => rolled.length = expressions.length) ?_ member
          intro item copied state
          rw [List.eq_of_mem_replicate copied]
          exact length_run_mapM Expression.roll expressions state
        · simp only [Round.lines_unnamed, line]
        · simp only [Round.lines_named, line]

/-- A name with an equals sign stands above two dice, twice. -/
theorem rollEntries_named_twice :
    let name := " a=b\u3000"
    let named := rollEntries false 2 [name ++ "=" ++ "2x d6"] (start (Tape.ofWords [3, 5]))
    let plain := rollEntries false 2 ["2x d6"] (start (Tape.ofWords [3, 5]))
    '=' ∉ "2x d6".toList ∧
      named.source = plain.source ∧
      ∃ first second third fourth : String,
        plain.printed.toList = [first, second, third, fourth] ∧
          named.printed.toList =
            ["a=b", " " ++ first, " " ++ second, "a=b", " " ++ third, " " ++ fourth] := by
  intro name named plain
  have unmarked : '=' ∉ "2x d6".toList := by
    decide +kernel
  have label : String.ofList (Text.trimBlanks name.toList) = "a=b" := by
    decide +kernel
  obtain ⟨-, ⟨-, -, same⟩, -, accepted⟩ :=
    rollEntries_named name unmarked false 2 (Tape.ofWords [3, 5])
  obtain ⟨rounds, twice, lengths, plainLines, namedLines⟩ := accepted _ Notation.parse_two_sixSided
  rw [label] at namedLines
  obtain ⟨former, latter, rfl⟩ := List.length_eq_two.mp twice
  obtain ⟨first, second, rfl⟩ := List.length_eq_two.mp (lengths former (by simp))
  obtain ⟨third, fourth, rfl⟩ := List.length_eq_two.mp (lengths latter (by simp))
  exact ⟨unmarked, same, _, _, _, _, plainLines, namedLines⟩

end Session

end DiceCup
