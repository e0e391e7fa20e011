/-!
# Ranges of code points

A Unicode property is written down as the closed ranges of code points that have it, in increasing
order.  This module gives such a table its type and its membership test.
-/

namespace DiceCup.Text

/-- Closed ranges of code points, each as its first and its last member. -/
abbrev CodeRanges :=
  Array (Nat × Nat)

/-- Whether one of the ranges holds the code point. -/
def CodeRanges.holds
    (ranges : CodeRanges)
    (point : Nat) :
    Bool :=
  ranges.any fun (first, last) => first ≤ point && point ≤ last

/-- A code point is held exactly when it lies between the ends of some range of the table. -/
theorem CodeRanges.holds_iff
    {ranges : CodeRanges}
    {point : Nat} :
    ranges.holds point = true ↔
      ∃ range ∈ ranges, range.1 ≤ point ∧ point ≤ range.2 := by
  simp only [CodeRanges.holds, Array.any_eq_true', Bool.and_eq_true, decide_eq_true_eq]

end DiceCup.Text
