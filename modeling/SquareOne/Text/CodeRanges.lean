import SquareOne.Text.Basic

/-! Character classes given by the ranges of their code points. -/

namespace SquareOne

/-- Ranges of code points, each by its first and its last, in increasing order. -/
abbrev CodeRanges := List (Nat × Nat)

namespace CodeRanges

def contains (ranges : CodeRanges) (char : Char) : Bool :=
  ranges.any fun range => range.1 ≤ char.toNat && char.toNat ≤ range.2

theorem contains_iff {ranges : CodeRanges} {char : Char} :
    ranges.contains char = true ↔
      ∃ range ∈ ranges, range.1 ≤ char.toNat ∧ char.toNat ≤ range.2 := by
  simp [contains, List.any_eq_true]

end CodeRanges

end SquareOne
