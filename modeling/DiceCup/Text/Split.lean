/-!
# Cutting a text in two

A text is cut at the first or at the last occurrence of a character, which belongs to neither part.
The part that the character is not to be looked for in holds none of it.
-/

namespace DiceCup.Text

/-- Cut a text at the first occurrence of a character, which is dropped. -/
def splitFirst
    (separator : Char)
    (text : List Char) :
    Option (List Char × List Char) :=
  match text.dropWhile (· != separator) with
  | [] => none
  | _ :: after => some (text.takeWhile (· != separator), after)

/-- Cut a text at the last occurrence of a character, which is dropped. -/
def splitLast
    (separator : Char)
    (text : List Char) :
    Option (List Char × List Char) :=
  (splitFirst separator text.reverse).map fun (after, before) => (before.reverse, after.reverse)

/-- The first part ends where the character first occurs. -/
theorem splitFirst_eq_some_iff
    {separator : Char}
    {text before after : List Char} :
    splitFirst separator text = some (before, after) ↔
      text = before ++ separator :: after ∧ separator ∉ before := by
  constructor
  · intro cut
    unfold splitFirst at cut
    split at cut
    next => cases cut
    next first rest shape =>
      cases cut
      have found : (first != separator) = false := by
        have head := List.head?_dropWhile_not (· != separator) text
        simpa [shape] using head
      have equality : first = separator := by
        simpa using found
      subst equality
      refine ⟨?_, ?_⟩
      · rw [← shape, List.takeWhile_append_dropWhile]
      · intro member
        have kept := List.all_takeWhile (p := (· != first)) (l := text)
        rw [List.all_eq_true] at kept
        simpa using kept first member
  · rintro ⟨rfl, absent⟩
    have kept : ∀ char ∈ before, (char != separator) = true := by
      intro char member
      simp only [bne_iff_ne]
      rintro rfl
      exact absent member
    unfold splitFirst
    rw [List.dropWhile_append_of_pos kept, List.takeWhile_append_of_pos kept]
    simp

/-- Only a text without the character is not cut. -/
theorem splitFirst_eq_none_iff
    {separator : Char}
    {text : List Char} :
    splitFirst separator text = none ↔ separator ∉ text := by
  constructor
  · intro whole member
    obtain ⟨before, after, parts, absent⟩ := List.eq_append_cons_of_mem member
    rw [splitFirst_eq_some_iff.mpr ⟨parts, absent⟩] at whole
    cases whole
  · intro absent
    rw [Option.eq_none_iff_forall_ne_some]
    rintro ⟨before, after⟩ cut
    rw [(splitFirst_eq_some_iff.mp cut).1] at absent
    simp at absent

theorem splitLast_eq_none_iff
    {separator : Char}
    {text : List Char} :
    splitLast separator text = none ↔ separator ∉ text := by
  rw [splitLast, Option.map_eq_none_iff, splitFirst_eq_none_iff, List.mem_reverse]

/-- The second part starts where the character last occurs. -/
theorem splitLast_eq_some_iff
    {separator : Char}
    {text before after : List Char} :
    splitLast separator text = some (before, after) ↔
      text = before ++ separator :: after ∧ separator ∉ after := by
  have backwards :
      splitLast separator text = some (before, after) ↔
        splitFirst separator text.reverse = some (after.reverse, before.reverse) := by
    unfold splitLast
    cases splitFirst separator text.reverse with
    | none => simp
    | some parts =>
      rcases parts with ⟨first, second⟩
      simp only [Option.map_some, Option.some.injEq, Prod.mk.injEq]
      constructor
      · rintro ⟨rfl, rfl⟩
        simp
      · rintro ⟨rfl, rfl⟩
        simp
  rw [backwards, splitFirst_eq_some_iff, List.reverse_eq_iff]
  simp

end DiceCup.Text
