import DiceCup.CommandLine.Draft

/-!
# Entries behind the separator

Two dashes alone end the options of a command line, and all that stands behind them is taken as it
is (`read_append_separator`).  So any entries can be typed behind the options that ask for a seed, a
number of times and a report of single dice, also entries that look like options
(`read_seedOptions`).
-/

namespace DiceCup.CommandLine

/-! ## The separator -/

/-- Nothing but two dashes is the separator. -/
theorem Argument.ofString_eq_separator_iff
    {argument : String} :
    Argument.ofString argument = .separator ↔ argument = "--" := by
  constructor
  · intro separates
    unfold ofString at separates
    split at separates
    next shape => exact String.toList_injective shape
    next => split at separates <;> cases separates
    next => cases separates
    next => cases separates
  · rintro rfl
    decide

namespace Draft

/-- Read one argument that is not the separator. -/
def accept
    (draft : Draft) :
    Argument → Except Refusal Draft
  | .separator => .ok draft
  | .long name value => draft.acceptLong name value
  | .cluster letters => draft.acceptCluster letters
  | .plain text => draft.acceptPlain text

/-- Arguments are read one after another up to the separator. -/
theorem acceptAll_cons
    {argument : String}
    (other : argument ≠ "--")
    (others : List String)
    (draft : Draft) :
    draft.acceptAll (argument :: others) =
      (draft.accept (Argument.ofString argument)).bind fun next => next.acceptAll others := by
  rw [acceptAll]
  cases form : Argument.ofString argument with
  | separator => exact absurd (Argument.ofString_eq_separator_iff.mp form) other
  | long name value => rfl
  | cluster letters => rfl
  | plain text => rfl

/-- Put entries behind those that are there. -/
def addEntries
    (entries : List String)
    (draft : Draft) :
    Draft :=
  { draft with expressions := draft.expressions ++ entries }

/-- Behind the separator there are only entries. -/
theorem acceptAll_separator
    (entries : List String)
    (draft : Draft) :
    draft.acceptAll ("--" :: entries) = draft.settle.map (addEntries entries) := by
  rw [acceptAll, Argument.ofString_eq_separator_iff.mpr rfl]
  cases draft.settle with
  | error refusal => rfl
  | ok settled => rfl

/-- What stands behind the first separator is added when all in front of it is read. -/
theorem acceptAll_append_separator
    {options : List String}
    (unseparated : "--" ∉ options)
    (entries : List String)
    (draft : Draft) :
    draft.acceptAll (options ++ "--" :: entries) =
      (draft.acceptAll options).map (addEntries entries) := by
  induction options generalizing draft with
  | nil => rw [List.nil_append, acceptAll_separator, acceptAll]
  | cons argument others inductionHypothesis =>
      have other : argument ≠ "--" := fun same => unseparated (same ▸ List.mem_cons_self)
      have unseparatedOthers : "--" ∉ others := fun member =>
        unseparated (List.mem_cons_of_mem argument member)
      rw [List.cons_append, acceptAll_cons other, acceptAll_cons other]
      cases draft.accept (Argument.ofString argument) with
      | error refusal => rfl
      | ok next => exact inductionHypothesis unseparatedOthers next

end Draft

/-- Entries behind a separator are added to those that the options in front of it give. -/
theorem read_append_separator
    {options : List String}
    {settings : Settings}
    (unseparated : "--" ∉ options)
    (accepted : read options = .ok settings)
    (entries : List String) :
    read (options ++ "--" :: entries) =
      .ok { settings with expressions := settings.expressions ++ entries } := by
  rw [read] at accepted ⊢
  rw [Draft.acceptAll_append_separator unseparated]
  cases draft : Draft.empty.acceptAll options with
  | error refusal =>
      rw [draft] at accepted
      cases accepted
  | ok settled =>
      rw [draft] at accepted
      cases accepted
      have expressions :
          (settled.expressions ++ entries).toList = settled.expressions.toList ++ entries :=
        Array.toList_appendList
      exact congrArg Except.ok (Settings.mk.injEq .. |>.mpr ⟨expressions, rfl, rfl, rfl, rfl⟩)

/-! ## Options for everything but entries and a file -/

/-- An option that is named in full, with its value behind an equals sign. -/
theorem Argument.ofString_long
    {name : String}
    (unmarked : '=' ∉ name.toList)
    (value : String) :
    Argument.ofString ("--" ++ name ++ "=" ++ value) = .long name.toList (some value.toList) := by
  have parts :
      ("--" ++ name ++ "=" ++ value).toList =
        '-' :: '-' :: (name.toList ++ '=' :: value.toList) := by
    simp
  have cut :
      Text.splitFirst '=' (name.toList ++ '=' :: value.toList) =
        some (name.toList, value.toList) :=
    Text.splitFirst_eq_some_iff.mpr ⟨rfl, unmarked⟩
  rw [ofString, parts]
  generalize shape : name.toList ++ '=' :: value.toList = text at cut
  cases text with
  | nil => simp at shape
  | cons first rest => simp only [cut]

theorem Argument.long_ne_separator
    {name : String}
    (unmarked : '=' ∉ name.toList)
    (value : String) :
    "--" ++ name ++ "=" ++ value ≠ "--" := by
  intro same
  have form := ofString_long unmarked value
  rw [same, ofString_eq_separator_iff.mpr rfl] at form
  cases form

/-- A run of digits has no sign in front, so its value is the seed if it fits. -/
theorem readSeed?_of_digits
    {digits : List Char}
    (all : digits.all Char.isDigit = true) :
    readSeed? digits = (Text.natural? digits).bind Text.toUInt64? := by
  unfold readSeed?
  split
  next => cases all
  next => rfl

theorem readTimes?_of_digits
    {digits : List Char}
    (all : digits.all Char.isDigit = true) :
    readTimes? digits = (Text.natural? digits).bind Text.toUInt32? := by
  unfold readTimes?
  split
  next => cases all
  next => cases all
  next => rfl

/-- A seed that is written out is read back. -/
theorem readSeed?_toString
    (seed : UInt64) :
    readSeed? (toString seed.toNat).toList = some seed := by
  have numeral := Text.natural?_toDigits seed.toNat
  obtain ⟨-, digits, -⟩ := Text.natural?_eq_some_iff.mp numeral
  rw [Nat.toString_eq_repr, Nat.toList_repr, readSeed?_of_digits digits, numeral,
    Option.bind_some, Text.toUInt64?, dif_pos seed.toNat_lt, UInt64.ofNatLT_toNat]

theorem readTimes?_toString
    (times : UInt32) :
    readTimes? (toString times.toNat).toList = some times := by
  have numeral := Text.natural?_toDigits times.toNat
  obtain ⟨-, digits, -⟩ := Text.natural?_eq_some_iff.mp numeral
  rw [Nat.toString_eq_repr, Nat.toList_repr, readTimes?_of_digits digits, numeral,
    Option.bind_some, Text.toUInt32?_eq_some_iff.mpr rfl]

/-- Options that ask for a seed, for a number of times and, if wanted, for a report of every die. -/
def seedOptions
    (seed : UInt64)
    (times : UInt32)
    (verbose : Bool) :
    List String :=
  ["--" ++ "seed" ++ "=" ++ toString seed.toNat, "--" ++ "times" ++ "=" ++ toString times.toNat] ++
    if verbose then ["--verbose"] else []

/-- An option with its value is stored at once if nothing is pending. -/
theorem Draft.acceptAll_long
    {name : String}
    {choice : Choice}
    {draft : Draft}
    (unmarked : '=' ∉ name.toList)
    (named : Flag.ofName? name.toList = some (.choice choice))
    (settled : draft.pending = none)
    (value : String)
    (others : List String) :
    draft.acceptAll (("--" ++ name ++ "=" ++ value) :: others) =
      (draft.choose choice (some value)).bind fun next => next.acceptAll others := by
  have chosen :
      draft.accept (.long name.toList (some value.toList)) = draft.choose choice (some value) := by
    simp only [accept, acceptLong, named, settle, settled, String.ofList_toList]
    rfl
  rw [acceptAll_cons (Argument.long_ne_separator unmarked value),
    Argument.ofString_long unmarked value, chosen]

/-- Options that are written out are read back. -/
theorem read_seedOptions
    (seed : UInt64)
    (times : UInt32)
    (verbose : Bool) :
    "--" ∉ seedOptions seed times verbose ∧
      read (seedOptions seed times verbose) =
        .ok { expressions := [], file := none, seed := some seed, times, verbose } := by
  have seedUnmarked : '=' ∉ "seed".toList := by
    decide +kernel
  have timesUnmarked : '=' ∉ "times".toList := by
    decide +kernel
  constructor
  · have seedOther := Argument.long_ne_separator seedUnmarked (toString seed.toNat)
    have timesOther := Argument.long_ne_separator timesUnmarked (toString times.toNat)
    cases verbose <;>
      simp only [seedOptions, if_true, Bool.false_eq_true, if_false, List.cons_append,
        List.nil_append, List.mem_cons, List.not_mem_nil, or_false, not_or]
    · exact ⟨seedOther.symm, timesOther.symm⟩
    · exact ⟨seedOther.symm, timesOther.symm, by decide⟩
  · have seedStored :
        Draft.empty.choose .seed (some (toString seed.toNat)) =
          .ok { Draft.empty with seed := some seed } := by
      simp only [Draft.choose, Draft.given, Draft.store, readSeed?_toString]
      rfl
    have timesStored :
        ({ Draft.empty with seed := some seed } : Draft).choose .times
            (some (toString times.toNat)) =
          .ok { Draft.empty with seed := some seed, times := some times } := by
      simp only [Draft.choose, Draft.given, Draft.store, readTimes?_toString]
      rfl
    rw [read, seedOptions, List.cons_append, List.cons_append, List.nil_append,
      Draft.acceptAll_long seedUnmarked (by rfl) rfl, seedStored]
    simp only [Except.bind]
    rw [Draft.acceptAll_long timesUnmarked (by rfl) rfl, timesStored]
    cases verbose with
    | false => rfl
    | true => rfl

end DiceCup.CommandLine
