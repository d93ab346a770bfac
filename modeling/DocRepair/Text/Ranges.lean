/-!
Sets of numbers given as closed ranges.
-/

namespace DocRepair

/-- Closed ranges of numbers, in ascending order. -/
abbrev RangeTable := List (Nat × Nat)

/-- Whether a number lies in one of the ranges; the scan stops at the first range above it. -/
def RangeTable.holds : RangeTable → Nat → Bool
  | [], _ => false
  | (low, high) :: rest, n =>
    if n < low then false
    else if n ≤ high then true
    else RangeTable.holds rest n

end DocRepair
