/-!
# Ranges of code points

A class of characters is given by closed ranges of code points. The tables of such ranges are in
increasing order, but looking a code point up does not depend on that.
-/
namespace MonkeyScan

/-- Whether a code point lies in one of some closed ranges. -/
def inRanges (ranges : List (Nat × Nat)) (n : Nat) : Bool :=
  ranges.any fun r => r.1 ≤ n && n ≤ r.2

theorem inRanges_iff (ranges : List (Nat × Nat)) (n : Nat) :
    inRanges ranges n = true ↔ ∃ r ∈ ranges, r.1 ≤ n ∧ n ≤ r.2 := by
  simp [inRanges]

end MonkeyScan
