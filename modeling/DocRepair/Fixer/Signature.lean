import DocRepair.Fixer.Basic
import DocRepair.Issue.Message

namespace DocRepair.Fixer

open Pattern

private def notNear : Text := "Could not find function/method near specified line"

/-- The type of a result: as declared, or by whether a value is returned. -/
def returnType (f : Callable) : Text :=
  match f.returnType with
  | some (c :: rest) => c :: rest
  | _ => if f.hasBody && !f.returnsValue then "void" else "mixed"

/-- The tag for a missing result type. -/
def returnAddition (issue : Issue) (tree : SourceTree) : Except Obstacle Addition := do
  let located ← require (tree.locate? issue.line SourceTree.signatureTolerance)
    "Could not find function/method at specified line"
  let type := returnType located.declaration
  return {
    line := located.line
    tag := "return"
    value := type
    present := fun annotations => annotations.hasTag "return"
    presentReason := "@return annotation already exists"
    description := "Added @return " ++ type ++ " annotation" }

/-- Documents the result of a function. -/
def fixMissingReturn (analyze : Analyzer) (issue : Issue) (content : Text) :
    Except Thrown FixResult :=
  withTree analyze issue content fun tree =>
    annotate issue content (returnAddition issue tree)

/-- The type of a parameter, by its name or else by its position. -/
def parameterType (f : Callable) (name : Text) (position : Nat) : Text :=
  match (f.parameter? name).orElse (fun _ => f.parameters[position]?) with
  | some ⟨_, some (c :: rest), _⟩ => c :: rest
  | _ => "mixed"

/-- The tag for a parameter without a type. -/
def parameterAddition (issue : Issue) (tree : SourceTree) : Except Obstacle Addition := do
  let name ← require (Message.parameterName? issue.message) "Could not extract parameter information"
  let position ← (Message.parameterPosition? issue.message).mapError (.thrown ·.thrown)
  let located ← require (tree.locate? issue.line SourceTree.bodyTolerance) notNear
  let variableName : Text := "$" ++ name
  return {
    line := located.line
    tag := "param"
    value := parameterType located.declaration name (position.getD 0) ++ " " ++ variableName
    present := fun annotations => annotations.hasName "param" variableName
    presentReason := "@param annotation already exists for " ++ variableName
    description := "Added @param annotation for " ++ variableName }

def fixMissingParameter (analyze : Analyzer) (issue : Issue) (content : Text) :
    Except Thrown FixResult :=
  withTree analyze issue content fun tree =>
    annotate issue content (parameterAddition issue tree)

/-- An exception that is missing from the tags. -/
def undocumentedThrow : List Pattern :=
  [all [anyCase "@throws", restOfLine, anyCase "annotation is missing"],
    all [anyCase "throws ", optional (anyCase "checked "), anyCase "exception", restOfLine,
      anyCase "but", restOfLine, anyCase "@throws"]]

def throwsAddition (issue : Issue) (tree : SourceTree) : Except Obstacle Addition := do
  let type := (Message.exceptionName? issue.message).getD "\\Exception"
  let located ← require (tree.locate? issue.line SourceTree.bodyTolerance) notNear
  return {
    line := located.line
    tag := "throws"
    value := type
    present := fun annotations => (annotations.listOf "throws").any (·.type == some type)
    presentReason := "@throws annotation already exists for " ++ type
    description := "Added @throws annotation for " ++ type }

def fixMissingThrows (analyze : Analyzer) (issue : Issue) (content : Text) :
    Except Thrown FixResult :=
  withTree analyze issue content fun tree =>
    annotate issue content (throwsAddition issue tree)

def impureWords : Pattern :=
  anyOf [anyCase "impure", anyCase "side effect", anyCase "different values",
    anyCase "non-deterministic"]

/-- The word for a function without effects. -/
def pureWord : Pattern :=
  all [.anchor .wordEdge, anyCase "pure", .anchor .wordEdge]

def purityTag (message : Text) : Text :=
  if impureWords.occursIn message then "phpstan-impure"
  else if pureWord.occursIn message then "phpstan-pure"
  else "phpstan-impure"

def purityAddition (issue : Issue) (tree : SourceTree) : Except Obstacle Addition := do
  let located ← require (tree.locate? issue.line SourceTree.bodyTolerance)
    "Could not find function/method near line"
  let tag := purityTag issue.message
  return {
    line := located.line
    tag
    value := []
    present := fun annotations => annotations.hasTag tag
    presentReason := "@" ++ tag ++ " annotation already exists"
    description := "Added @" ++ tag ++ " annotation" }

/-- Documents whether a function has effects. -/
def fixPurity (analyze : Analyzer) (issue : Issue) (content : Text) :
    Except Thrown FixResult :=
  withTree analyze issue content fun tree =>
    annotate issue content (purityAddition issue tree)

def callableMessages : List Pattern :=
  [all [anyCase "callable", restOfLine, anyCase "invoked"],
    all [anyCase "parameter", restOfLine, anyCase "expects callable"]]

/-- The tag for a callable parameter: methods are taken to keep it, functions to call it. -/
def callableAddition (issue : Issue) (tree : SourceTree) : Except Obstacle Addition := do
  let name ← require (Message.parameterName? issue.message)
    "Could not extract callable parameter information"
  let located ← require (tree.locate? issue.line SourceTree.bodyTolerance) notNear
  let tag : Text :=
    if located.isMethod then "param-later-invoked-callable"
    else "param-immediately-invoked-callable"
  let timing : Text := if located.isMethod then "later invoked" else "immediately invoked"
  let variableName : Text := "$" ++ name
  return {
    line := located.line
    tag
    value := variableName
    present := fun annotations => annotations.hasName tag variableName
    presentReason := "@" ++ tag ++ " annotation already exists for " ++ variableName
    description := "Added @" ++ tag ++ " annotation for " ++ variableName ++ " (" ++ timing ++ ")" }

/-- Documents when a callable parameter is invoked. -/
def fixCallable (analyze : Analyzer) (issue : Issue) (content : Text) :
    Except Thrown FixResult :=
  withTree analyze issue content fun tree =>
    annotate issue content (callableAddition issue tree)

end DocRepair.Fixer
