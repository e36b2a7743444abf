/-! Sets of characters, written as lists of code point ranges. -/

namespace RiscvGloss.Text

/-- The code points from `first` to `last`, both included. -/
structure Range where
  first : Nat
  last : Nat
  deriving DecidableEq, Repr

def Range.contains (range : Range) (n : Nat) : Bool :=
  range.first ≤ n && n ≤ range.last

/-- The character `c` lies in one of the ranges. -/
def inRanges (ranges : List Range) (c : Char) : Bool :=
  ranges.any (·.contains c.toNat)

theorem Range.contains_iff {range : Range} {n : Nat} :
    range.contains n = true ↔ range.first ≤ n ∧ n ≤ range.last := by
  simp [Range.contains]

theorem inRanges_iff {ranges : List Range} {c : Char} :
    inRanges ranges c = true ↔ ∃ r ∈ ranges, r.first ≤ c.toNat ∧ c.toNat ≤ r.last := by
  simp only [inRanges, List.any_eq_true, Range.contains_iff]

end RiscvGloss.Text
