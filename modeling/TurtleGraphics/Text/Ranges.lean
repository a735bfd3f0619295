/-!
# Characters given by ranges

A property of characters is kept as a list of inclusive ranges of code points. `inRanges` is
membership in such a list, and `inRanges_iff` says which characters it holds of.
-/

namespace TurtleGraphics.Text

/-- `c` lies in one of the inclusive ranges. -/
def inRanges (ranges : List (Nat × Nat)) (c : Char) : Bool :=
  ranges.any fun r => decide (r.1 ≤ c.toNat) && decide (c.toNat ≤ r.2)

theorem inRanges_iff {ranges : List (Nat × Nat)} {c : Char} :
    inRanges ranges c = true ↔ ∃ r ∈ ranges, r.1 ≤ c.toNat ∧ c.toNat ≤ r.2 := by
  simp [inRanges]

end TurtleGraphics.Text
