import DocRepair.Fixer.Basic
import DocRepair.Issue.Message

namespace DocRepair.Fixer

open Pattern Docblock

def propertyTags : List Text := ["property", "property-read", "property-write"]

/-- A property that the class treats in a way of its own. -/
def pivot : Text := "pivot"

/-- Whether a message is about a property that is to be documented. -/
def claimsProperty (message : Text) : Bool :=
  Message.isUndefinedProperty message && Message.propertyName? message != some pivot

/-- The type of a property, or the type of anything. -/
def declaredType (p : Property) : Text :=
  match p.type with
  | some (c :: rest) => c :: rest
  | _ => "mixed"

/-- The tag for a property: on the property if it is declared, else on the class. -/
def propertyAddition (issue : Issue) (tree : SourceTree) : Except Obstacle Addition := do
  let name ← require (Message.propertyName? issue.message) "Could not extract property name"
  let owner ← require (tree.locateClass? issue.line) "Could not find class containing the property"
  let variableName : Text := "$" ++ name
  match owner.property? name with
  | some declared =>
    return {
      line := declared.line
      tag := "var"
      value := declaredType declared ++ " " ++ variableName
      present := fun annotations => annotations.hasName "var" variableName
      presentReason := "@var annotation already exists for " ++ variableName
      description := "Added @var annotation for " ++ variableName }
  | none =>
    return {
      line := owner.firstLine
      tag := "property"
      value := "mixed " ++ variableName
      present := fun annotations => propertyTags.any (annotations.hasName · variableName)
      presentReason := "@property annotation already exists for " ++ variableName
      description := "Added @property annotation for " ++ variableName }

def fixMissingProperty (analyze : Analyzer) (issue : Issue) (content : Text) :
    Except Thrown FixResult :=
  withTree analyze issue content fun tree =>
    annotate issue content (propertyAddition issue tree)

def methodAddition (issue : Issue) (tree : SourceTree) : Except Obstacle Addition := do
  let name ← require (Message.methodName? issue.message) "Could not extract method name"
  let owner ← require (tree.locateClass? issue.line)
    "Could not find class containing the method call"
  return {
    line := owner.firstLine
    tag := "method"
    value := "mixed " ++ name ++ "()"
    present := fun annotations => annotations.hasName "method" name
    presentReason := "@method annotation already exists for " ++ name ++ "()"
    description := "Added @method annotation for " ++ name ++ "()" }

def fixUndefinedMethod (analyze : Analyzer) (issue : Issue) (content : Text) :
    Except Thrown FixResult :=
  withTree analyze issue content fun tree =>
    annotate issue content (methodAddition issue tree)

def readonlyProperty : Pattern :=
  all [anyCase "read", optional (exactly "-"), anyCase "only property"]

/-- Whether a message is about writing such a property. -/
def claimsReadonly (message : Text) : Bool :=
  readonlyProperty.occursIn message ||
    (message.lower.holds "assigned outside of" && message.lower.holds "property")

/-- The tag for a property that is not to be written. -/
def readonlyAddition (issue : Issue) (tree : SourceTree) : Except Obstacle Addition := do
  let name ← require (Message.propertyName? issue.message) "Could not extract property name"
  let declared ← require (tree.firstProperty? name) "Could not find property declaration"
  return {
    line := declared.line
    tag := "readonly"
    value := []
    present := fun annotations => annotations.hasTag "readonly"
    presentReason := "@readonly already exists for $" ++ name
    description := "Added @readonly to $" ++ name }

def fixReadonlyProperty (analyze : Analyzer) (issue : Issue) (content : Text) :
    Except Thrown FixResult :=
  withTree analyze issue content fun tree =>
    annotate issue content (readonlyAddition issue tree)

end DocRepair.Fixer
