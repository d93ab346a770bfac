import DocRepair.Text.CodePoint

namespace DocRepair

/-- The kind of a fault and its text. -/
structure Thrown where
  kind : Text
  text : Text
  deriving DecidableEq, Repr

end DocRepair
