import DocRepair.Pattern.Matcher
import DocRepair.Pattern.Reader
import DocRepair.Thrown

namespace DocRepair

/-- Why an expression cannot be used. -/
inductive ExpressionFault where
  /-- It is not an expression; the message says why. -/
  | refused (message : Text)
  | raised (thrown : Thrown)
  deriving DecidableEq, Repr

/-- A complaint about an expression, refused as one about how it is written or raised. -/
def ExpressionFault.ofReadError (body : Text) (e : Pattern.ReadError) : ExpressionFault :=
  match e.cause.kind? with
  | some kind => .raised ⟨kind, e.message body⟩
  | none => .refused (e.message body)

/-- A reader of expressions, which tells for one that it accepts where it is found. -/
structure Expressions where
  read : (body : Text) → (flags : Pattern.Flags) → Except ExpressionFault (Text → Bool)

/-- The reader for expressions as patterns, given the code points that have a name. -/
def Expressions.standard (named : Text → Option CodePoint := fun _ => none) : Expressions where
  read body flags :=
    match Pattern.ofExpression body flags named with
    | .ok p => .ok p.occursIn
    | .error e => .error (.ofReadError body e)

end DocRepair
