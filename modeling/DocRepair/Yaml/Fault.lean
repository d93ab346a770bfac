import DocRepair.Json.Reader
import DocRepair.Moment
import DocRepair.Text.Quoted

namespace DocRepair.Yaml

/-- Why a document gives no value. -/
inductive Fault where
  /-- The document is not well-formed, or names something that is not there. -/
  | malformed
  /-- An escape beyond the code points. -/
  | beyondCodePoints
  /-- An escape beyond all counting. -/
  | beyondCounting
  /-- A word that is tagged as a truth value. -/
  | notTruth (word : Text)
  /-- A text that is tagged as a number and empty. -/
  | emptyNumber
  | notInteger (base : Nat) (text : Text)
  | longInteger (digits : Nat)
  | notReal (text : Text)
  /-- A text that is tagged as a moment. -/
  | notMoment
  | moment (fault : MomentFault)
  deriving DecidableEq, Repr

/-- The message of a fault; there is none for a document that is not well-formed. -/
def Fault.message : Fault → Text
  | .malformed => []
  | .beyondCodePoints => "chr() arg not in range(0x110000)"
  | .beyondCounting => "Python int too large to convert to C int"
  | .notTruth word => word.quoted
  | .emptyNumber => "string index out of range"
  | .notInteger base text =>
    "invalid literal for int() with base " ++ Text.ofNat base ++ ": " ++ text.quoted.take 200
  | .longInteger digits => longIntegerText digits
  | .notReal text => "could not convert string to float: " ++ text.quoted
  | .notMoment => "'NoneType' object has no attribute 'groupdict'"
  | .moment fault => fault.message

end DocRepair.Yaml
