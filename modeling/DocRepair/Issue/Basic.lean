import DocRepair.Text.CodePoint

namespace DocRepair

/-- One diagnostic. Two diagnostics on one line are two issues. -/
structure Issue where
  file : Text
  line : Int
  message : Text
  identifier : Option Text := none
  column : Option Int := none
  deriving DecidableEq, Repr

end DocRepair
