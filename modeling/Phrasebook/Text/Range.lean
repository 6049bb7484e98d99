/-
# Ranges of characters

A set of characters is written as a list of closed ranges of code points.
-/

namespace Phrasebook
namespace Text

/-- Whether the code point of `c` lies in one of the ranges. -/
def inRanges (rs : List (Nat × Nat)) (c : Char) : Bool :=
  rs.any fun r => r.1 ≤ c.toNat && c.toNat ≤ r.2

/-- A character is in a list of ranges exactly if it is in one of them. -/
theorem inRanges_eq_true {rs : List (Nat × Nat)} {c : Char} :
    inRanges rs c = true ↔ ∃ r ∈ rs, r.1 ≤ c.toNat ∧ c.toNat ≤ r.2 := by
  simp [inRanges]

end Text
end Phrasebook
