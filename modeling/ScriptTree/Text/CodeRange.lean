/-!
# Character classes as ranges of code points

A class of characters is a list of half-open ranges of code points, in ascending order. The
tables of this folder are such lists, one module for each property.
-/

namespace ScriptTree.Text
set_option autoImplicit false

/-- Membership of a character in a list of half-open ranges of code points. -/
def inRanges (ranges : List (Nat × Nat)) (c : Char) : Bool :=
  ranges.any fun r => decide (r.1 ≤ c.toNat) && decide (c.toNat < r.2)

theorem inRanges_iff {ranges : List (Nat × Nat)} {c : Char} :
    inRanges ranges c = true ↔ ∃ r ∈ ranges, r.1 ≤ c.toNat ∧ c.toNat < r.2 := by
  simp [inRanges]

end ScriptTree.Text
