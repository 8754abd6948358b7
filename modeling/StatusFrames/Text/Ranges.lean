/-
Character properties are kept as sorted tables of closed ranges of code points.
-/
namespace StatusFrames.Text

/-- Whether a code point lies in one of the closed ranges. -/
def inRanges (ranges : List (Nat × Nat)) (code : Nat) : Bool :=
  ranges.any fun (lo, hi) => lo ≤ code && code ≤ hi

theorem inRanges_iff {ranges : List (Nat × Nat)} {code : Nat} :
    inRanges ranges code = true ↔ ∃ r ∈ ranges, r.1 ≤ code ∧ code ≤ r.2 := by
  simp [inRanges]

end StatusFrames.Text
