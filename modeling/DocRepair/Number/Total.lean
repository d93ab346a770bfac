/-!
Sums over lists.
-/

namespace DocRepair

/-- The sum of a measure over a list. -/
def total {α : Type} (measure : α → Nat) : List α → Nat
  | [] => 0
  | x :: rest => measure x + total measure rest

end DocRepair
