import DocRepair.Datum
import DocRepair.Number.Integer

namespace DocRepair.Report

/-- Whether a text looks like an integer: digits in the wide sense after any count of minus signs,
with white space around. -/
def looksInteger (t : Text) : Bool :=
  let digits := t.strip.dropWhile fun c : CodePoint => c == '-'
  !digits.isEmpty && digits.all CodePoint.isDigit

/-- The integer of a value, if it is one or looks like one. -/
def integer? : Datum → Except IntegerFault (Option Int)
  | .int n => .ok (some n)
  | .text t => if looksInteger t then (readInteger t).map some else .ok none
  | _ => .ok none

end DocRepair.Report
