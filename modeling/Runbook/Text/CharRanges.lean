/-!
# Sets of characters as ranges

A property of characters is stored as an ascending list of inclusive ranges of code points, so
that membership is a search and the list itself can be read against the standard.
-/

namespace Runbook.Text

/-- Inclusive ranges of code points. -/
abbrev CharRanges := List (Nat × Nat)

/-- Does one of the ranges hold the character? -/
def CharRanges.contains (ranges : CharRanges) (c : Char) : Bool :=
  ranges.any fun (low, high) => low ≤ c.toNat && c.toNat ≤ high

/-- Membership is membership in one of the ranges. -/
theorem CharRanges.contains_iff (ranges : CharRanges) (c : Char) :
    ranges.contains c = true ↔ ∃ r ∈ ranges, r.1 ≤ c.toNat ∧ c.toNat ≤ r.2 := by
  simp [CharRanges.contains]

end Runbook.Text
