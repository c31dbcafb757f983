/-!
# Ranges of code points

A property of characters is a list of inclusive ranges in ascending order.
`CodeRange.covers` is the only membership test; `covers_iff` says what it decides on an
ascending list.
-/

namespace StyleLexer.Unicode

/-- The code points from `first` to `last`, both included. -/
structure CodeRange where
  first : Nat
  last : Nat

namespace CodeRange

/-- The point lies in one of the ranges. The scan ends at the first range that starts
above the point, so the ranges have to ascend. -/
def covers : List CodeRange → Nat → Bool
  | [], _ => false
  | range :: ranges, point =>
      if point < range.first then false
      else if point ≤ range.last then true
      else covers ranges point

/-- No range is empty, none reaches below `bound`, and each starts above the end of the
one before it. -/
def ascendingFrom (bound : Nat) : List CodeRange → Bool
  | [] => true
  | range :: ranges =>
      decide (bound ≤ range.first) && decide (range.first ≤ range.last) &&
        ascendingFrom (range.last + 1) ranges

/-- Every range of an ascending list starts at or above its bound. -/
theorem bound_le_first {bound : Nat} {ranges : List CodeRange}
    (ascending : ascendingFrom bound ranges = true) {range : CodeRange}
    (member : range ∈ ranges) : bound ≤ range.first := by
  induction ranges generalizing bound with
  | nil => cases member
  | cons head tail inductionHypothesis =>
      simp only [ascendingFrom, Bool.and_eq_true, decide_eq_true_eq] at ascending
      obtain ⟨⟨low, ordered⟩, rest⟩ := ascending
      cases member with
      | head => exact low
      | tail _ later => exact Nat.le_trans (by omega) (inductionHypothesis rest later)

/-- On an ascending list the early end of the scan loses nothing. -/
theorem covers_iff {bound : Nat} {ranges : List CodeRange}
    (ascending : ascendingFrom bound ranges = true) (point : Nat) :
    covers ranges point = true ↔
      ∃ range ∈ ranges, range.first ≤ point ∧ point ≤ range.last := by
  induction ranges generalizing bound with
  | nil => simp [covers]
  | cons head tail inductionHypothesis =>
      simp only [ascendingFrom, Bool.and_eq_true, decide_eq_true_eq] at ascending
      obtain ⟨⟨low, ordered⟩, rest⟩ := ascending
      simp only [covers, List.mem_cons, exists_eq_or_imp]
      split
      · rename_i below
        simp only [Bool.false_eq_true, false_iff, not_or, not_exists, not_and]
        refine ⟨fun start => by omega, fun range member start => ?_⟩
        have above := bound_le_first rest member
        omega
      · rename_i reached
        split
        · rename_i inside
          exact iff_of_true rfl (Or.inl ⟨by omega, inside⟩)
        · rename_i beyond
          rw [inductionHypothesis rest]
          exact ⟨Or.inr, fun either => either.resolve_left fun inside => beyond inside.2⟩

end CodeRange

end StyleLexer.Unicode
