import DocRepair.OrderedMap
import DocRepair.Policy.Delimited
import DocRepair.Policy.Wildcard

namespace DocRepair

inductive Action where
  | fix
  | ignore
  | report
  deriving DecidableEq, Repr

namespace Action

def all : List Action := [.fix, .ignore, .report]

def text : Action → Text
  | .fix => "fix"
  | .ignore => "ignore"
  | .report => "report"

/-- The action that a word stands for. -/
def ofText? (word : Text) : Option Action :=
  all.find? (·.text == word)

/-- The complaint about a word that is no action. -/
def invalidText (word : Text) : Text :=
  "Invalid action \"" ++ word ++ "\". Must be one of: " ++ Text.join ", " (all.map text)

end Action

/-- The rules of a policy: patterns with actions in order, and the action where none matches. -/
structure Rules where
  entries : OrderedMap Text Action := []
  fallback : Action := .fix
  deriving DecidableEq, Repr

namespace Rules

/-- What a pattern asks of a message. -/
inductive Test where
  /-- The message is the pattern. -/
  | exact
  /-- The pattern is found in the message. -/
  | search (found : Text → Bool)

/-- The test of a pattern: an expression between slashes, a wildcard with a star, or the text. -/
def testOf (re : Expressions) (pattern : Text) : Except ExpressionFault Test :=
  match Delimited.ofText? pattern with
  | some delimited => (delimited.read re).map .search
  | none =>
    if pattern.contains '*' then .ok (.search (Wildcard.compile pattern false).occursIn)
    else .ok .exact

/-- Whether a pattern is compared with the message as a whole. -/
def isExact (pattern : Text) : Bool :=
  !isDelimited pattern && !pattern.contains '*'

/-- Whether a pattern is found in a message. -/
def searches (re : Expressions) (pattern message : Text) : Bool :=
  match testOf re pattern with
  | .ok (.search found) => found message
  | _ => false

/-- The action for a message: a rule that is the message wins, then the first rule that is found in
it, then the fallback. -/
def actionFor (r : Rules) (re : Expressions) (message : Text) : Action :=
  match r.entries.find? fun (pattern, _) => isExact pattern && pattern == message with
  | some (_, action) => action
  | none =>
    match r.entries.find? fun (pattern, _) => searches re pattern message with
    | some (_, action) => action
    | none => r.fallback

end Rules

end DocRepair
