/-!
# Ranges of code points

Character classes are kept as lists of closed ranges of code points; `inRanges` is membership.
-/

namespace TxDraft.Text

/-- A closed range of code points, its first and its last. -/
abbrev CodePointRange := Nat × Nat

/-- Does the code point lie in one of the ranges? -/
def inRanges (ranges : List CodePointRange) (n : Nat) : Bool :=
  ranges.any fun r => r.1 ≤ n && n ≤ r.2

end TxDraft.Text
