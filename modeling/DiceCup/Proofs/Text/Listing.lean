import DiceCup.Text.Lines
import DiceCup.Text.Split
import Mathlib.Logic.Relation

/-!
# The entries that a text lists

A text lists entries line by line: a line of blanks lists nothing, and any other line lists one
entry, which neither starts nor ends with a blank.  `Lists` says so without cutting or trimming, and
`lists_iff` says that cutting and trimming find just these entries.

Blanks at the start or at the end of a line make no difference (`listed_eq_of_relaid`), line feeds
among them: empty lines, indentation, carriage returns and a line feed at the end are all of this
kind.
-/

namespace DiceCup.Text

/-- A text of nothing but blanks. -/
def AllBlank
    (text : List Char) :
    Prop :=
  ∀ char ∈ text, isBlank char = true

instance
    (text : List Char) :
    Decidable (AllBlank text) :=
  decidable_of_iff (text.all isBlank = true) List.all_eq_true

/-- A text that neither starts nor ends with a blank, and is not empty. -/
structure Trimmed
    (text : List Char) :
    Prop where
  nonempty : text ≠ []
  head : ∀ char ∈ text.head?, isBlank char = false
  last : ∀ char ∈ text.getLast?, isBlank char = false

/-- What one line lists: nothing, or an entry with blanks around it. -/
inductive LineLists : List Char → List (List Char) → Prop where
  | nothing
      {line : List Char}
      (blank : AllBlank line) :
      LineLists line []
  | entry
      {before entry after : List Char}
      (blankBefore : AllBlank before)
      (trimmed : Trimmed entry)
      (blankAfter : AllBlank after) :
      LineLists (before ++ entry ++ after) [entry]

/-- What a text lists, one line after the other. -/
inductive Lists : List Char → List (List Char) → Prop where
  | last
      {line : List Char}
      {entries : List (List Char)}
      (unbroken : '\n' ∉ line)
      (lists : LineLists line entries) :
      Lists line entries
  | more
      {line rest : List Char}
      {entries others : List (List Char)}
      (unbroken : '\n' ∉ line)
      (lists : LineLists line entries)
      (listsOthers : Lists rest others) :
      Lists (line ++ '\n' :: rest) (entries ++ others)

/-- The entries that are found by cutting the text at its line feeds and trimming each line. -/
def listed
    (text : List Char) :
    List (List Char) :=
  ((text.splitOn '\n').map trimBlanks).filter fun line => !line.isEmpty

theorem filledLines_eq_listed
    (contents : String) :
    filledLines contents = (listed contents.toList).map String.ofList :=
  rfl

/-! ## Trimming -/

theorem dropBlanks_append
    {blanks : List Char}
    (blank : AllBlank blanks)
    (text : List Char) :
    dropBlanks (blanks ++ text) = dropBlanks text :=
  List.dropWhile_append_of_pos blank

theorem trimBlanks_blanks_append
    {blanks : List Char}
    (blank : AllBlank blanks)
    (text : List Char) :
    trimBlanks (blanks ++ text) = trimBlanks text := by
  rw [trimBlanks, dropBlanks_append blank, trimBlanks]

theorem trimBlanks_append_blanks
    {blanks : List Char}
    (blank : AllBlank blanks)
    (text : List Char) :
    trimBlanks (text ++ blanks) = trimBlanks text := by
  have backwards : AllBlank blanks.reverse := fun char member =>
    blank char (List.mem_reverse.mp member)
  have nothing : dropBlanks blanks = [] := by
    simpa [dropBlanks] using dropBlanks_append blank []
  have parts : dropBlanks (text ++ blanks) =
      if (dropBlanks text).isEmpty then dropBlanks blanks else dropBlanks text ++ blanks :=
    List.dropWhile_append
  rw [trimBlanks, trimBlanks, parts]
  split
  next empty => rw [nothing, List.isEmpty_iff.mp empty]
  next => rw [List.reverse_append, dropBlanks_append backwards]

/-- A text of nothing but blanks is trimmed to nothing. -/
theorem AllBlank.trimBlanks_eq_nil
    {blanks : List Char}
    (blank : AllBlank blanks) :
    trimBlanks blanks = [] := by
  simpa [trimBlanks, dropBlanks] using trimBlanks_blanks_append blank []

/-- A trimmed text is left as it is. -/
theorem Trimmed.trimBlanks_eq_self
    {entry : List Char}
    (trimmed : Trimmed entry) :
    trimBlanks entry = entry := by
  have backwards : ∀ char ∈ entry.reverse.head?, isBlank char = false := by
    rw [List.head?_reverse]
    exact trimmed.last
  rw [trimBlanks, dropBlanks_eq_self trimmed.head, dropBlanks_eq_self backwards,
    List.reverse_reverse]

/-- What is left of a text that is not all blanks is trimmed. -/
theorem trimmed_trimBlanks
    {text : List Char}
    (filled : trimBlanks text ≠ []) :
    Trimmed (trimBlanks text) where
  nonempty := filled
  head := by
    intro char member
    -- What is kept of the text after its first blanks begins where that begins.
    have kept : trimBlanks text <+: dropBlanks text := by
      rw [← List.reverse_suffix, trimBlanks, List.reverse_reverse]
      exact List.dropWhile_suffix isBlank
    obtain ⟨after, whole⟩ := kept
    apply isBlank_head_dropBlanks text char
    rw [← whole, List.head?_append, Option.mem_def.mp member]
    rfl
  last := by
    rw [trimBlanks, List.getLast?_reverse]
    exact isBlank_head_dropBlanks _

theorem allBlank_takeWhile
    (text : List Char) :
    AllBlank (text.takeWhile isBlank) :=
  List.all_eq_true.mp List.all_takeWhile

/-- A text is what is left of it when it is trimmed, with blanks around. -/
theorem exists_blanks_around
    (text : List Char) :
    ∃ before after : List Char,
      AllBlank before ∧ AllBlank after ∧ text = before ++ trimBlanks text ++ after := by
  let backwards := (dropBlanks text).reverse
  have rest : dropBlanks text = trimBlanks text ++ (backwards.takeWhile isBlank).reverse := by
    rw [← List.reverse_inj, List.reverse_append, List.reverse_reverse, trimBlanks,
      List.reverse_reverse]
    exact List.takeWhile_append_dropWhile.symm
  refine ⟨text.takeWhile isBlank, (backwards.takeWhile isBlank).reverse,
    allBlank_takeWhile text, ?_, ?_⟩
  · intro char member
    exact allBlank_takeWhile backwards char (List.mem_reverse.mp member)
  · rw [List.append_assoc, ← rest]
    exact List.takeWhile_append_dropWhile.symm

/-! ## Lines -/

/-- A line lists what is left of it when it is trimmed, unless nothing is. -/
theorem lineLists_iff
    {line : List Char}
    {entries : List (List Char)} :
    LineLists line entries ↔ entries = [trimBlanks line].filter fun entry => !entry.isEmpty := by
  constructor
  · rintro (⟨blank⟩ | ⟨blankBefore, trimmed, blankAfter⟩)
    · rw [blank.trimBlanks_eq_nil]
      rfl
    · rw [trimBlanks_append_blanks blankAfter, trimBlanks_blanks_append blankBefore,
        trimmed.trimBlanks_eq_self]
      simp [trimmed.nonempty]
  · rintro rfl
    obtain ⟨before, after, blankBefore, blankAfter, parts⟩ := exists_blanks_around line
    by_cases filled : trimBlanks line = []
    · rw [filled, List.append_nil] at parts
      have blank : AllBlank line := by
        rw [parts]
        exact List.forall_mem_append.mpr ⟨blankBefore, blankAfter⟩
      simpa [filled] using LineLists.nothing blank
    · have entry := LineLists.entry blankBefore (trimmed_trimBlanks filled) blankAfter
      rw [← parts] at entry
      simpa [filled] using entry

/-- The lines before a line feed and those behind it list their entries one after the other. -/
theorem listed_append_lineFeed
    (first second : List Char) :
    listed (first ++ '\n' :: second) = listed first ++ listed second := by
  have cut := List.splitOnP_append_cons (p := (· == '\n')) first second (beq_self_eq_true '\n')
  simp only [listed, List.splitOn, cut, List.map_append, List.filter_append]

theorem listed_of_unbroken
    {line : List Char}
    (unbroken : '\n' ∉ line) :
    listed line = [trimBlanks line].filter fun entry => !entry.isEmpty := by
  rw [listed, List.splitOn_eq_singleton unbroken, List.map_singleton]

/-- Every text lists something. -/
theorem lists_listed
    (text : List Char) :
    Lists text (listed text) := by
  cases cut : splitFirst '\n' text with
  | none =>
      have unbroken := splitFirst_eq_none_iff.mp cut
      exact .last unbroken (lineLists_iff.mpr (listed_of_unbroken unbroken))
  | some parts =>
      rcases parts with ⟨line, rest⟩
      obtain ⟨whole, unbroken⟩ := splitFirst_eq_some_iff.mp cut
      have shorter : rest.length < text.length := by
        rw [whole, List.length_append, List.length_cons]
        omega
      rw [whole, listed_append_lineFeed]
      exact .more unbroken (lineLists_iff.mpr (listed_of_unbroken unbroken)) (lists_listed rest)
termination_by text.length

/-- Cutting and trimming find what a text lists, and nothing else. -/
theorem lists_iff
    {text : List Char}
    {entries : List (List Char)} :
    Lists text entries ↔ entries = listed text := by
  constructor
  · intro lists
    induction lists with
    | last unbroken lists => rw [lineLists_iff.mp lists, listed_of_unbroken unbroken]
    | more unbroken lists _ inductionHypothesis =>
        rw [listed_append_lineFeed, listed_of_unbroken unbroken, ← lineLists_iff.mp lists,
          ← inductionHypothesis]
  · rintro rfl
    exact lists_listed text

/-! ## Blanks that make no difference -/

section Blanks

variable
  {char : Char}
  (blank : isBlank char = true)

include blank

theorem LineLists.cons_blank
    {line : List Char}
    {entries : List (List Char)}
    (lists : LineLists line entries) :
    LineLists (char :: line) entries := by
  cases lists with
  | nothing blankLine => exact .nothing (List.forall_mem_cons.mpr ⟨blank, blankLine⟩)
  | entry blankBefore trimmed blankAfter =>
      exact .entry (List.forall_mem_cons.mpr ⟨blank, blankBefore⟩) trimmed blankAfter

theorem LineLists.concat_blank
    {line : List Char}
    {entries : List (List Char)}
    (lists : LineLists line entries) :
    LineLists (line ++ [char]) entries := by
  have single : AllBlank [char] := List.forall_mem_singleton.mpr blank
  cases lists with
  | nothing blankLine => exact .nothing (List.forall_mem_append.mpr ⟨blankLine, single⟩)
  | entry blankBefore trimmed blankAfter =>
      rw [List.append_assoc]
      exact .entry blankBefore trimmed (List.forall_mem_append.mpr ⟨blankAfter, single⟩)

/-- A blank in front of a text adds nothing to what it lists, be it a line feed or not. -/
theorem Lists.cons_blank
    {text : List Char}
    {entries : List (List Char)}
    (lists : Lists text entries) :
    Lists (char :: text) entries := by
  by_cases lineFeed : char = '\n'
  · subst lineFeed
    exact .more List.not_mem_nil (.nothing (List.forall_mem_nil _)) lists
  · cases lists with
    | last unbroken lists =>
        exact .last (List.not_mem_cons_of_ne_of_not_mem (Ne.symm lineFeed) unbroken)
          (lists.cons_blank blank)
    | more unbroken lists listsOthers =>
        exact .more (List.not_mem_cons_of_ne_of_not_mem (Ne.symm lineFeed) unbroken)
          (lists.cons_blank blank) listsOthers

/-- A blank behind a text adds nothing to what it lists. -/
theorem Lists.concat_blank
    {text : List Char}
    {entries : List (List Char)}
    (lists : Lists text entries) :
    Lists (text ++ [char]) entries := by
  induction lists with
  | @last line entries unbroken lists =>
      by_cases lineFeed : char = '\n'
      · subst lineFeed
        have empty : Lists [] [] := .last List.not_mem_nil (.nothing (List.forall_mem_nil _))
        simpa using Lists.more unbroken lists empty
      · have longer : '\n' ∉ line ++ [char] := by
          simp [unbroken, Ne.symm lineFeed]
        exact .last longer (lists.concat_blank blank)
  | more unbroken lists _ inductionHypothesis =>
      rw [List.append_assoc, List.cons_append]
      exact .more unbroken lists inductionHypothesis

end Blanks

theorem listed_blanks_append
    {blanks : List Char}
    (blank : AllBlank blanks)
    (text : List Char) :
    listed (blanks ++ text) = listed text := by
  induction blanks with
  | nil => rfl
  | cons char blanks inductionHypothesis =>
      obtain ⟨first, others⟩ := List.forall_mem_cons.mp blank
      rw [← inductionHypothesis others]
      exact (lists_iff.mp ((lists_listed (blanks ++ text)).cons_blank first)).symm

theorem listed_append_blanks
    {blanks : List Char}
    (blank : AllBlank blanks)
    (text : List Char) :
    listed (text ++ blanks) = listed text := by
  induction blanks generalizing text with
  | nil => rw [List.append_nil]
  | cons char blanks inductionHypothesis =>
      obtain ⟨first, others⟩ := List.forall_mem_cons.mp blank
      rw [List.append_cons, inductionHypothesis others]
      exact (lists_iff.mp ((lists_listed text).concat_blank first)).symm

/-- Two parts of a text meet at the start of a line or at the end of one. -/
def MeetAtLineEdge
    (before after : List Char) :
    Prop :=
  (∀ char ∈ before.getLast?, char = '\n') ∨ ∀ char ∈ after.head?, char = '\n'

/--
Blanks are put in at the start or at the end of a line.  They can be an indentation, a carriage
return in front of a line feed, whole lines of blanks, or a line feed at the end of the text.
-/
inductive Relaid : List Char → List Char → Prop where
  | insert
      {before blanks after : List Char}
      (blank : AllBlank blanks)
      (edge : MeetAtLineEdge before after) :
      Relaid (before ++ after) (before ++ blanks ++ after)

theorem listed_eq_of_insert
    {before blanks after : List Char}
    (blank : AllBlank blanks)
    (edge : MeetAtLineEdge before after) :
    listed (before ++ blanks ++ after) = listed (before ++ after) := by
  rcases edge with atStart | atEnd
  · rcases List.eq_nil_or_concat before with rfl | ⟨front, last, rfl⟩
    · exact listed_blanks_append blank after
    · have lineFeed : last = '\n' := atStart last (by simp)
      subst lineFeed
      rw [List.concat_eq_append, ← List.append_cons, ← List.append_cons, List.append_assoc,
        List.cons_append, listed_append_lineFeed, listed_append_lineFeed,
        listed_blanks_append blank]
  · cases after with
    | nil => rw [List.append_nil, List.append_nil, listed_append_blanks blank]
    | cons first rest =>
        have lineFeed : first = '\n' := atEnd first rfl
        subst lineFeed
        rw [listed_append_lineFeed, listed_append_lineFeed, listed_append_blanks blank]

/-- Texts that differ only in blanks at the edges of their lines list the same entries. -/
theorem listed_eq_of_relaid
    {first second : List Char}
    (relaid : Relation.EqvGen Relaid first second) :
    listed first = listed second := by
  induction relaid with
  | rel first second insertion =>
      cases insertion with
      | insert blank edge => exact (listed_eq_of_insert blank edge).symm
  | refl text => rfl
  | symm first second _ same => exact same.symm
  | trans first second third _ _ same sameAgain => exact same.trans sameAgain

end DiceCup.Text
