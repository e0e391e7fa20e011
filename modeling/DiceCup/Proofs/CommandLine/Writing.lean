import DiceCup.Proofs.CommandLine.Separator
import Mathlib.Data.List.Nodup
import Mathlib.Data.List.Perm.Basic

/-!
# Writing settings down

Any settings can be written as arguments.  Every setting is one group of arguments and has several
spellings; the groups may stand in any order, and entries that do not look like options may stand
between them (`Mixed`).  Other entries stand behind the separator.

When a group has been read the draft may still hold a value that has not been looked at.  Whatever
comes next looks at it first, so such a draft reads on like the settled one
(`Draft.acceptAll_of_settle`), and a group puts its setting into the draft
(`Draft.acceptAll_group`).  Groups of different settings change different parts of a draft, so their
order does not matter (`Draft.foldl_put_of_perm`), and the settings are read back (`read_mixed`).
-/

namespace DiceCup.CommandLine

/-! ## Settings and their spellings -/

/-- One thing that is asked for besides entries. -/
inductive Setting where
  | file (path : String)
  | seed (seed : UInt64)
  | times (times : UInt32)
  | verbose
  deriving DecidableEq

/-- The option that asks for a setting. -/
def Setting.flag :
    Setting → Flag
  | .file _ => .choice .file
  | .seed _ => .choice .seed
  | .times _ => .choice .times
  | .verbose => .switch .verbose

/-- A setting is spelled as a group of arguments. -/
inductive Setting.Spelled : Setting → List String → Prop
  | file (path : String) : Spelled (.file path) ["--file=" ++ path]
  | seedLetter (seed : UInt64) : Spelled (.seed seed) ["-s", toString seed.toNat]
  | seedName (seed : UInt64) : Spelled (.seed seed) ["--seed", toString seed.toNat]
  | seedEquals (seed : UInt64) : Spelled (.seed seed) ["--seed=" ++ toString seed.toNat]
  | timesLetter (times : UInt32) : Spelled (.times times) ["-n", toString times.toNat]
  | timesName (times : UInt32) : Spelled (.times times) ["--times", toString times.toNat]
  | timesEquals (times : UInt32) : Spelled (.times times) ["--times=" ++ toString times.toNat]
  | verboseLetter : Spelled .verbose ["-v"]
  | verboseName : Spelled .verbose ["--verbose"]

theorem Setting.exists_spelled
    (setting : Setting) :
    ∃ group, setting.Spelled group := by
  cases setting with
  | file path => exact ⟨_, .file path⟩
  | seed seed => exact ⟨_, .seedLetter seed⟩
  | times times => exact ⟨_, .timesLetter times⟩
  | verbose => exact ⟨_, .verboseLetter⟩

/-- The settings that are there. -/
def chosen
    (file : Option String)
    (seed : Option UInt64)
    (times : Option UInt32)
    (verbose : Bool) :
    List Setting :=
  file.toList.map .file ++ seed.toList.map .seed ++ times.toList.map .times ++
    if verbose then [.verbose] else []

/-- Groups of arguments for settings, in their order, with entries in front, between and behind. -/
inductive Mixed : List Setting → List String → List String → Prop
  | nothing : Mixed [] [] []
  | group {setting : Setting} {settings : List Setting} {group early arguments : List String}
      (spelled : setting.Spelled group) (others : Mixed settings early arguments) :
      Mixed (setting :: settings) early (group ++ arguments)
  | entry {settings : List Setting} {early arguments : List String}
      (entry : String) (others : Mixed settings early arguments) :
      Mixed settings (entry :: early) (entry :: arguments)

/-- All settings can be written in front of all entries. -/
theorem exists_mixed
    (settings : List Setting)
    (early : List String) :
    ∃ arguments, Mixed settings early arguments := by
  induction settings with
  | nil =>
      induction early with
      | nil => exact ⟨[], .nothing⟩
      | cons entry early inductionHypothesis =>
          obtain ⟨arguments, mixed⟩ := inductionHypothesis
          exact ⟨entry :: arguments, .entry entry mixed⟩
  | cons setting settings inductionHypothesis =>
      obtain ⟨arguments, mixed⟩ := inductionHypothesis
      obtain ⟨group, spelled⟩ := setting.exists_spelled
      exact ⟨group ++ arguments, .group spelled mixed⟩

/-! ## Values and entries -/

/-- What does not start with a dash stands for itself. -/
theorem Argument.ofString_plain
    {text : String}
    (plain : text.toList.head? ≠ some '-') :
    Argument.ofString text = .plain text := by
  unfold Argument.ofString
  split
  next shape => exact absurd (by rw [shape]; rfl) plain
  next shape => exact absurd (by rw [shape]; rfl) plain
  next shape => exact absurd (by rw [shape]; rfl) plain
  next => rfl

/-- A number that is written out does not look like an option. -/
theorem head?_numeral_ne_dash
    (number : Nat) :
    (toString number).toList.head? ≠ some '-' := by
  have numeral := Text.natural?_toDigits number
  obtain ⟨-, digits, -⟩ := Text.natural?_eq_some_iff.mp numeral
  rw [Nat.toString_eq_repr, Nat.toList_repr]
  intro dash
  have digit := List.all_eq_true.mp digits '-' (List.mem_of_head? dash)
  exact absurd digit (by decide)

/-- An argument of its own asks for the value of an option. -/
inductive Argument.Asks : Argument → Choice → Prop
  | letter {letter : Char} {choice : Choice}
      (lettered : Flag.ofLetter? letter = some (.choice choice)) : Asks (.cluster [letter]) choice
  | name {name : List Char} {choice : Choice}
      (named : Flag.ofName? name = some (.choice choice)) : Asks (.long name none) choice

/-- The option and the value that a setting is written with, if it has a value. -/
def Setting.value? :
    Setting → Option (Choice × String)
  | .file path => some (.file, path)
  | .seed number => some (.seed, toString number.toNat)
  | .times number => some (.times, toString number.toNat)
  | .verbose => none

/-! ## Putting settings into a draft -/

namespace Draft

/-- Put a setting into a draft. -/
def put
    (draft : Draft) :
    Setting → Draft
  | .file path => { draft with file := some path }
  | .seed seed => { draft with seed := some seed }
  | .times times => { draft with times := some times }
  | .verbose => { draft with verbose := true }

/-- Whether an option was given before. -/
def has
    (draft : Draft) :
    Flag → Bool
  | .choice choice => draft.given choice
  | .switch .verbose => draft.verbose
  | .switch .help => false

theorem has_empty
    (flag : Flag) :
    empty.has flag = false := by
  rcases flag with (_ | _ | _) | (_ | _) <;> rfl

@[simp]
theorem pending_put
    (draft : Draft)
    (setting : Setting) :
    (draft.put setting).pending = draft.pending := by
  cases setting <;> rfl

/-- A setting says nothing about the other options. -/
theorem has_put_of_ne
    {flag : Flag}
    {setting : Setting}
    (other : flag ≠ setting.flag)
    (draft : Draft) :
    (draft.put setting).has flag = draft.has flag := by
  cases flag with
  | choice choice =>
      cases choice <;> cases setting
      case file.file => exact absurd rfl other
      case seed.seed => exact absurd rfl other
      case times.times => exact absurd rfl other
      all_goals rfl
  | switch switch =>
      cases switch <;> cases setting
      case verbose.verbose => exact absurd rfl other
      all_goals rfl

theorem put_comm
    {first second : Setting}
    (other : first.flag ≠ second.flag)
    (draft : Draft) :
    (draft.put first).put second = (draft.put second).put first := by
  cases first <;> cases second
  case file.file => exact absurd rfl other
  case seed.seed => exact absurd rfl other
  case times.times => exact absurd rfl other
  case verbose.verbose => exact absurd rfl other
  all_goals rfl

theorem put_addEntries
    (draft : Draft)
    (entries : List String)
    (setting : Setting) :
    (draft.addEntries entries).put setting = (draft.put setting).addEntries entries := by
  cases setting <;> rfl

theorem has_addEntries
    (draft : Draft)
    (entries : List String)
    (flag : Flag) :
    (draft.addEntries entries).has flag = draft.has flag := by
  rcases flag with (_ | _ | _) | (_ | _) <;> rfl

theorem foldl_put_addEntries
    (draft : Draft)
    (entries : List String)
    (settings : List Setting) :
    settings.foldl put (draft.addEntries entries) =
      (settings.foldl put draft).addEntries entries := by
  induction settings generalizing draft with
  | nil => rfl
  | cons setting settings inductionHypothesis =>
      rw [List.foldl_cons, List.foldl_cons, put_addEntries, inductionHypothesis]

theorem addEntries_nil
    (draft : Draft) :
    draft.addEntries [] = draft := by
  rw [addEntries, Array.appendList_nil]

theorem addEntries_cons
    (entry : String)
    (entries : List String)
    (draft : Draft) :
    draft.addEntries (entry :: entries) = (draft.addEntries [entry]).addEntries entries := by
  simp only [addEntries, Array.appendList_cons, Array.appendList_nil]

/-- The order in which different settings are put into a draft does not matter. -/
theorem foldl_put_of_perm
    {settings others : List Setting}
    (order : settings.Perm others)
    (once : (settings.map Setting.flag).Nodup)
    (draft : Draft) :
    settings.foldl put draft = others.foldl put draft := by
  apply order.foldl_eq'
  intro first firstMember second secondMember current
  by_cases same : first.flag = second.flag
  · rw [List.inj_on_of_nodup_map once firstMember secondMember same]
  · exact put_comm same current

/-- The draft into which all settings that are there are put. -/
theorem foldl_put_chosen
    (file : Option String)
    (seed : Option UInt64)
    (times : Option UInt32)
    (verbose : Bool) :
    (chosen file seed times verbose).foldl put empty =
      { empty with file, seed, times, verbose } := by
  cases file <;> cases seed <;> cases times <;> cases verbose <;> rfl

/-! ## Reading one group -/

variable {draft settled : Draft}

theorem settle_of_free
    (free : draft.pending = none) :
    draft.settle = .ok draft := by
  rw [settle, free]

theorem acceptPlain_of_settle
    (settles : draft.settle = .ok settled)
    (free : settled.pending = none)
    (text : String) :
    draft.acceptPlain text = settled.acceptPlain text := by
  have again := settle_of_free free
  unfold acceptPlain
  rw [free]
  cases held : draft.pending with
  | none => simp only [settles, again]
  | some waiting =>
      obtain ⟨choice, value⟩ := waiting
      cases value with
      | none =>
          -- A draft that waits for a value cannot be settled.
          rw [settle, held] at settles
          cases settles
      | some value => simp only [settles, again]

/-- A draft in which a right value is pending reads on like the one in which it is stored. -/
theorem acceptAll_of_settle
    (settles : draft.settle = .ok settled)
    (free : settled.pending = none)
    (arguments : List String) :
    draft.acceptAll arguments = settled.acceptAll arguments := by
  have again := settle_of_free free
  induction arguments with
  | nil => rw [acceptAll, acceptAll, settles, again]
  | cons argument others inductionHypothesis =>
      by_cases separates : argument = "--"
      · rw [separates, acceptAll_separator, acceptAll_separator, settles, again]
      rw [acceptAll_cons separates, acceptAll_cons separates]
      cases Argument.ofString argument with
      | separator => exact inductionHypothesis
      | long name value => simp only [accept, acceptLong, settles, again]
      | cluster letters =>
          cases letters with
          | nil => exact inductionHypothesis
          | cons letter letters => simp only [accept, acceptCluster, settles, again]
      | plain text => simp only [accept, acceptPlain_of_settle settles free]

theorem accept_of_asks
    {argument : Argument}
    {choice : Choice}
    (asks : argument.Asks choice)
    (free : draft.pending = none) :
    draft.accept argument = .ok { draft with pending := some (choice, none) } := by
  have settles := settle_of_free free
  cases asks with
  | letter lettered =>
      simp only [accept, acceptCluster, lettered, settles]
      rfl
  | name named =>
      simp only [accept, acceptLong, named, settles]
      rfl

theorem acceptAll_of_accept
    {text : String}
    {argument : Argument}
    (form : Argument.ofString text = argument)
    (other : argument ≠ .separator)
    (accepted : draft.accept argument = .ok settled)
    (others : List String) :
    draft.acceptAll (text :: others) = settled.acceptAll others := by
  have textOther : text ≠ "--" := fun same =>
    other (form ▸ Argument.ofString_eq_separator_iff.mpr same)
  rw [acceptAll_cons textOther, form, accepted]
  rfl

/-- An option takes the next argument as its value. -/
theorem acceptAll_apart
    {text value : String}
    {argument : Argument}
    {choice : Choice}
    (form : Argument.ofString text = argument)
    (asks : argument.Asks choice)
    (plain : value.toList.head? ≠ some '-')
    (stored : draft.choose choice (some value) = .ok settled)
    (free : draft.pending = none)
    (freed : settled.pending = none)
    (others : List String) :
    draft.acceptAll (text :: value :: others) = settled.acceptAll others := by
  have waits := accept_of_asks asks free
  have kept :
      ({ draft with pending := some (choice, none) } : Draft).accept (.plain value) =
        .ok { draft with pending := some (choice, some value) } :=
    rfl
  have settles :
      ({ draft with pending := some (choice, some value) } : Draft).settle = .ok settled := by
    rw [settle, ← stored]
    exact congrArg (fun held => Draft.choose { draft with pending := held } choice _) free.symm
  have other : argument ≠ .separator := by
    cases asks with
    | letter lettered => simp
    | name named => simp
  rw [acceptAll_of_accept form other waits,
    acceptAll_of_accept (Argument.ofString_plain plain) (by simp) kept]
  exact acceptAll_of_settle settles freed others

/-- An option is stored at once with the value behind its equals sign. -/
theorem acceptAll_equals
    {opening name value : String}
    {choice : Choice}
    (opens : opening = "--" ++ name ++ "=")
    (unmarked : '=' ∉ name.toList)
    (named : Flag.ofName? name.toList = some (.choice choice))
    (stored : draft.choose choice (some value) = .ok settled)
    (free : draft.pending = none)
    (others : List String) :
    draft.acceptAll ((opening ++ value) :: others) = settled.acceptAll others := by
  rw [opens, acceptAll_long unmarked named free, stored]
  rfl

/-- The value of a setting is right, so it is stored if it was not given before. -/
theorem choose_value
    {setting : Setting}
    {choice : Choice}
    {value : String}
    (valued : setting.value? = some (choice, value))
    (named : setting ≠ .file "")
    (lacks : draft.has setting.flag = false) :
    draft.choose choice (some value) = .ok (draft.put setting) := by
  cases setting with
  | file path =>
      have nonempty : path ≠ "" := fun empty => named (congrArg Setting.file empty)
      cases valued
      have lacking : draft.given .file = false := lacks
      simp only [choose, lacking, store, nonempty, put, Bool.false_eq_true, if_false]
  | seed seed =>
      cases valued
      have lacking : draft.given .seed = false := lacks
      simp only [choose, lacking, store, readSeed?_toString, put, Bool.false_eq_true, if_false]
  | times times =>
      cases valued
      have lacking : draft.given .times = false := lacks
      simp only [choose, lacking, store, readTimes?_toString, put, Bool.false_eq_true, if_false]
  | verbose => cases valued

theorem turnOn_verbose
    (lacks : draft.has Setting.verbose.flag = false) :
    draft.turnOn .verbose = .ok (draft.put .verbose) := by
  have lacking : draft.verbose = false := lacks
  simp only [turnOn, lacking, put, Bool.false_eq_true, if_false]

/-- A group of arguments puts its setting into a draft that lacks it. -/
theorem acceptAll_group
    {setting : Setting}
    {group : List String}
    (spelled : setting.Spelled group)
    (named : setting ≠ .file "")
    (lacks : draft.has setting.flag = false)
    (free : draft.pending = none)
    (others : List String) :
    draft.acceptAll (group ++ others) = (draft.put setting).acceptAll others := by
  have freed := (pending_put draft setting).trans free
  have digits := head?_numeral_ne_dash
  cases spelled with
  | file path =>
      have opens : "--file=" = "--" ++ "file" ++ "=" := by decide
      exact acceptAll_equals opens (by decide) rfl (choose_value rfl named lacks) free others
  | seedLetter seed =>
      have form : Argument.ofString "-s" = .cluster ['s'] := by decide
      exact acceptAll_apart form (.letter rfl) (digits _) (choose_value rfl named lacks)
        free freed others
  | seedName seed =>
      have form : Argument.ofString "--seed" = .long "seed".toList none := by decide
      exact acceptAll_apart form (.name rfl) (digits _) (choose_value rfl named lacks)
        free freed others
  | seedEquals seed =>
      have opens : "--seed=" = "--" ++ "seed" ++ "=" := by decide
      exact acceptAll_equals opens (by decide) rfl (choose_value rfl named lacks) free others
  | timesLetter times =>
      have form : Argument.ofString "-n" = .cluster ['n'] := by decide
      exact acceptAll_apart form (.letter rfl) (digits _) (choose_value rfl named lacks)
        free freed others
  | timesName times =>
      have form : Argument.ofString "--times" = .long "times".toList none := by decide
      exact acceptAll_apart form (.name rfl) (digits _) (choose_value rfl named lacks)
        free freed others
  | timesEquals times =>
      have opens : "--times=" = "--" ++ "times" ++ "=" := by decide
      exact acceptAll_equals opens (by decide) rfl (choose_value rfl named lacks) free others
  | verboseLetter =>
      have accepted : draft.accept (.cluster ['v']) = .ok (draft.put .verbose) := by
        simp only [accept, acceptCluster, Flag.ofLetter?, settle_of_free free]
        exact congrArg (fun turned => turned >>= _) (turnOn_verbose lacks)
      have form : Argument.ofString "-v" = .cluster ['v'] := by decide
      exact acceptAll_of_accept form (by simp) accepted others
  | verboseName =>
      have accepted : draft.accept (.long "verbose".toList none) = .ok (draft.put .verbose) := by
        have known : Flag.ofName? "verbose".toList = some (.switch .verbose) := rfl
        simp only [accept, acceptLong, known, settle_of_free free]
        exact turnOn_verbose lacks
      have form : Argument.ofString "--verbose" = .long "verbose".toList none := by decide
      exact acceptAll_of_accept form (by simp) accepted others

/-- An argument that does not look like an option is an entry if no option waits for its value. -/
theorem acceptAll_entry
    {entry : String}
    (plain : entry.toList.head? ≠ some '-')
    (free : draft.pending = none)
    (others : List String) :
    draft.acceptAll (entry :: others) = (draft.addEntries [entry]).acceptAll others := by
  have accepted : draft.accept (.plain entry) = .ok (draft.addEntries [entry]) := by
    rw [addEntries, Array.appendList_cons, Array.appendList_nil, accept, acceptPlain]
    split
    next waits =>
      rw [free] at waits
      cases waits
    next =>
      rw [settle_of_free free]
      rfl
  exact acceptAll_of_accept (Argument.ofString_plain plain) (by simp) accepted others

/-! ## Reading all groups -/

/-- What is written is put into the draft, whatever stands behind it. -/
theorem acceptAll_mixed
    {settings : List Setting}
    {early arguments : List String}
    (mixed : Mixed settings early arguments)
    (named : .file "" ∉ settings)
    (once : (settings.map Setting.flag).Nodup)
    (plain : ∀ entry ∈ early, entry.toList.head? ≠ some '-')
    (lacks : ∀ setting ∈ settings, draft.has setting.flag = false)
    (free : draft.pending = none)
    (others : List String) :
    draft.acceptAll (arguments ++ others) =
      ((settings.foldl put draft).addEntries early).acceptAll others := by
  induction mixed generalizing draft with
  | nothing => rw [List.nil_append, List.foldl_nil, addEntries_nil]
  | @group setting settings group early arguments spelled _ inductionHypothesis =>
      rw [List.map_cons, List.nodup_cons] at once
      have lacksOthers : ∀ later ∈ settings, (draft.put setting).has later.flag = false := by
        intro later member
        have different : later.flag ≠ setting.flag := fun same =>
          once.1 (same ▸ List.mem_map_of_mem member)
        rw [has_put_of_ne different]
        exact lacks later (List.mem_cons_of_mem setting member)
      have settingNamed : setting ≠ .file "" := fun same => named (same ▸ List.mem_cons_self)
      have othersNamed : .file "" ∉ settings := fun member =>
        named (List.mem_cons_of_mem setting member)
      have settingFree := (pending_put draft setting).trans free
      rw [List.append_assoc, List.foldl_cons,
        acceptAll_group spelled settingNamed (lacks setting List.mem_cons_self) free]
      exact inductionHypothesis othersNamed once.2 plain lacksOthers settingFree
  | @entry settings early arguments entry _ inductionHypothesis =>
      have entryPlain := plain entry List.mem_cons_self
      have othersPlain : ∀ later ∈ early, later.toList.head? ≠ some '-' := fun later member =>
        plain later (List.mem_cons_of_mem entry member)
      have lacksStill :
          ∀ setting ∈ settings, (draft.addEntries [entry]).has setting.flag = false := by
        intro setting member
        rw [has_addEntries]
        exact lacks setting member
      rw [List.cons_append, acceptAll_entry entryPlain free, addEntries_cons entry early,
        ← foldl_put_addEntries]
      exact inductionHypothesis named once othersPlain lacksStill free

end Draft

/-- Different settings of the ones that are there have different options. -/
theorem nodup_flag_chosen
    (file : Option String)
    (seed : Option UInt64)
    (times : Option UInt32)
    (verbose : Bool) :
    ((chosen file seed times verbose).map Setting.flag).Nodup := by
  cases file <;> cases seed <;> cases times <;> cases verbose <;>
    simp [chosen, Setting.flag]

theorem file_mem_chosen_iff
    {file : Option String}
    {seed : Option UInt64}
    {times : Option UInt32}
    {verbose : Bool}
    {path : String} :
    .file path ∈ chosen file seed times verbose ↔ file = some path := by
  simp [chosen]

/--
All settings, in any order and spelled in any way, with any entries among them that do not start
with a dash, can be written in front of a separator, and any other entries behind it.  They are all
read back, the entries in their order.
-/
theorem read_mixed
    {file : Option String}
    {seed : Option UInt64}
    {times : Option UInt32}
    {verbose : Bool}
    {settings : List Setting}
    {early : List String}
    (named : file ≠ some "")
    (order : settings.Perm (chosen file seed times verbose))
    (plain : ∀ entry ∈ early, entry.toList.head? ≠ some '-')
    (late : List String) :
    (∃ arguments, Mixed settings early arguments) ∧
      ∀ arguments, Mixed settings early arguments →
        read (arguments ++ "--" :: late) =
          .ok { expressions := early ++ late, file, seed, times := times.getD 1, verbose } := by
  refine ⟨exists_mixed settings early, fun arguments mixed => ?_⟩
  have namedAll : .file "" ∉ settings := fun member =>
    named (file_mem_chosen_iff.mp (order.mem_iff.mp member))
  have once : (settings.map Setting.flag).Nodup :=
    (order.map Setting.flag).nodup_iff.mpr (nodup_flag_chosen file seed times verbose)
  have lacks : ∀ setting ∈ settings, Draft.empty.has setting.flag = false := fun setting _ =>
    Draft.has_empty setting.flag
  have settled :
      settings.foldl Draft.put Draft.empty = { Draft.empty with file, seed, times, verbose } :=
    (Draft.foldl_put_of_perm order once Draft.empty).trans
      (Draft.foldl_put_chosen file seed times verbose)
  rw [read, Draft.acceptAll_mixed mixed namedAll once plain lacks rfl, settled,
    Draft.acceptAll_separator, Draft.settle_of_free rfl]
  have expressions : ((#[] : Array String) ++ early ++ late).toList = early ++ late := by
    rw [Array.toList_appendList, Array.toList_appendList, List.nil_append]
  exact congrArg Except.ok (Settings.mk.injEq .. |>.mpr ⟨expressions, rfl, rfl, rfl, rfl⟩)

/--
A file whose path looks like an option, the largest seed and no times at all are read back with
entries that are empty, look like options or are separators themselves.
-/
theorem read_mixed_lookalikes :
    some "-x=y" ≠ some "" ∧
      [.verbose, .times 0, .seed 18446744073709551615, .file "-x=y"].Perm
        (chosen (some "-x=y") (some 18446744073709551615) (some 0) true) ∧
      (∀ entry ∈ ["", "4d6"], entry.toList.head? ≠ some '-') ∧
      Mixed [.verbose, .times 0, .seed 18446744073709551615, .file "-x=y"] ["", "4d6"]
        ["", "-v", "-n", "0", "4d6", "--seed=18446744073709551615", "--file=-x=y"] ∧
      read ["", "-v", "-n", "0", "4d6", "--seed=18446744073709551615", "--file=-x=y", "--",
          "-s", "--", ""] =
        .ok
          { expressions := ["", "4d6", "-s", "--", ""]
            file := some "-x=y"
            seed := some 18446744073709551615
            times := 0
            verbose := true } := by
  have named : some "-x=y" ≠ some "" := by decide
  have order :
      [.verbose, .times 0, .seed 18446744073709551615, .file "-x=y"].Perm
        (chosen (some "-x=y") (some 18446744073709551615) (some 0) true) := by
    decide
  have plain : ∀ entry ∈ ["", "4d6"], entry.toList.head? ≠ some '-' := by decide
  have mixed :
      Mixed [.verbose, .times 0, .seed 18446744073709551615, .file "-x=y"] ["", "4d6"]
        ["", "-v", "-n", "0", "4d6", "--seed=18446744073709551615", "--file=-x=y"] := by
    have times : (Setting.times 0).Spelled ["-n", "0"] := .timesLetter 0
    have seed : (Setting.seed 18446744073709551615).Spelled ["--seed=18446744073709551615"] :=
      .seedEquals 18446744073709551615
    have file : (Setting.file "-x=y").Spelled ["--file=-x=y"] := .file "-x=y"
    exact .entry "" (.group .verboseLetter (.group times (.entry "4d6" (.group seed
      (.group file .nothing)))))
  exact ⟨named, order, plain, mixed, (read_mixed named order plain ["-s", "--", ""]).2 _ mixed⟩

end DiceCup.CommandLine
