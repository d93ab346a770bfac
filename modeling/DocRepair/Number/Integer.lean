import DocRepair.Text.Blank
import DocRepair.Text.Digit
import DocRepair.Text.Quoted
import DocRepair.Text.Search
import DocRepair.Thrown

namespace DocRepair

/-- The greatest count of digits that are converted to an integer. -/
def maxIntegerDigits : Nat := 4300

/-- The complaint about an integer with too many digits. -/
def longIntegerText (digits : Nat) : Text :=
  "Exceeds the limit (" ++ Text.ofNat maxIntegerDigits ++
    " digits) for integer string conversion: value has " ++ Text.ofNat digits ++
    " digits; use sys.set_int_max_str_digits() to increase the limit"

/-- Why a text is not converted to an integer. -/
inductive IntegerFault where
  | notInteger (text : Text)
  | tooLong (digits : Nat)
  deriving DecidableEq, Repr

/-- The message of a fault; a long text is cut. -/
def IntegerFault.message : IntegerFault → Text
  | .notInteger text => "invalid literal for int() with base 10: " ++ text.quoted.take 200
  | .tooLong digits => longIntegerText digits

def IntegerFault.thrown (fault : IntegerFault) : Thrown :=
  ⟨"ValueError", fault.message⟩

/-- White space that may surround an integer: the separators from U+001C on may not. -/
def isIntegerBlank (c : CodePoint) : Bool :=
  c.isBlank && !(0x1C ≤ c.val && c.val ≤ 0x1F)

def decimalDigits? (t : Text) : Option Nat :=
  if t.isEmpty then none
  else t.foldlM (fun n c => c.decimal?.map (n * 10 + ·)) 0

/-- The digits of groups between which stand single low lines. -/
def joinGroups? (t : Text) : Option Text :=
  let groups := t.splitAt '_'
  if groups.any (·.isEmpty) then none else some groups.flatten

/-- The integer that a text is written like: at most one sign and groups of decimal digits. The
digits are counted before anything that may follow them is looked at. -/
def readInteger (t : Text) : Except IntegerFault Int :=
  let body := Text.dropTrailing isIntegerBlank (t.dropWhile isIntegerBlank)
  let negative := body.opensWith '-'
  let unsigned := if negative || body.opensWith '+' then body.drop 1 else body
  let run := unsigned.takeWhile fun c : CodePoint => c.isDecimal || c == '_'
  match joinGroups? run with
  | none => .error (.notInteger t)
  | some digits =>
    if digits.length > maxIntegerDigits then .error (.tooLong digits.length)
    else if run.length < unsigned.length then .error (.notInteger t)
    else
      match decimalDigits? digits with
      | none => .error (.notInteger t)
      | some n => .ok (if negative then -(n : Int) else n)

end DocRepair
