import DocRepair.Fixer.Basic
import DocRepair.Issue.Message

namespace DocRepair.Fixer

open Pattern Docblock

def valueTypeMessage : Pattern :=
  .alt (anyCase "iterable value type") (anyCase "no value type specified in iterable type")

def iterableType : Pattern :=
  all [anyCase "in iterable type", blanks, .group 1 Pattern.className]

/-- Types without a value type. -/
def bareTypes : List Text := ["array", "iterable"]

/-- A type without question marks at its start. -/
def dropQuestionMarks (t : Text) : Text :=
  t.dropWhile fun c => c == '?'

/-- The type with a value type: the declared one if it is bare, else the one of the message. -/
def completedType (message : Text) (declared : Option Text) : Text :=
  let mentioned := (iterableType.find? 1 message).getD "iterable"
  let base :=
    match declared with
    | some type =>
      if bareTypes.contains (dropQuestionMarks type).lower then dropQuestionMarks type
      else mentioned
    | none => mentioned
  let nullable := declared.any (·.opensWith '?')
  if nullable then base ++ "<mixed>|null" else base ++ "<mixed>"

/-- Whether an entry is about a variable; every entry is about none. -/
def isAbout (tag : Text) (variableName : Option Text) (entry : Entry) : Bool :=
  match variableName with
  | none => true
  | some _ => entry.name == variableName || (tag == ("var" : Text) && entry.name.isNone)

def afterBareType (tag : Text) (variableName : Option Text) : Pattern :=
  match variableName with
  | none => anyOf [cls .blank, exactly "*/", .anchor .lineEnd]
  | some name =>
    let named := all [blanks, exactly name, .anchor .wordEdge]
    if tag == ("var" : Text) then
      anyOf [named, all [many (cls .blank), exactly "*/"],
        all [many (cls .blank), .anchor .lineEnd]]
    else named

def bareTag (tag : Text) (variableName : Option Text) : Pattern :=
  all [exactly ("@" ++ tag), blanks, anyOf (bareTypes.map exactly),
    .ahead true (afterBareType tag variableName)]

/-- Completes the first bare type of a tag in a block. -/
def completeBareType? (tag : Text) (variableName : Option Text) (block : Text) : Option Text :=
  ((bareTag tag variableName).search? block).map fun found =>
    block.take found.stop ++ "<mixed>" ++ block.drop found.stop

def addValueType (issue : Issue) (content : Text) (line : Int) (tag : Text)
    (variableName : Option Text) (type : Text) : FixResult :=
  let subject := variableName.getD ("@" ++ tag)
  let ending := LineEnding.detect content
  let lines := ending.split content
  let addition : Addition := {
    line
    tag
    value := match variableName with
      | some name => type ++ " " ++ name
      | none => type
    present := fun annotations => (annotations.listOf tag).any (isAbout tag variableName)
    presentReason := "@" ++ tag ++ " annotation already exists for " ++ subject
    description := "Added iterable value type for " ++ subject }
  match Docblock.locate? lines (line - 1) with
  | none => addition.apply issue content
  | some block =>
    let entries := ((parse block.text).listOf tag).filter (isAbout tag variableName)
    if entries.any (fun entry => entry.type.any (·.contains '<')) then
      .failure issue content "Iterable value type already exists"
    else
      match completeBareType? tag variableName block.text with
      | some updated =>
        .success issue (ending.join (replaceLines lines block.firstLine block.lastLine updated.lines))
          (some ("Added iterable value type for " ++ subject))
          ["Added <mixed> value type to @" ++ tag ++ " at line " ++ Text.ofInt line]
      | none => addition.apply issue content

def fixPropertyValueType (issue : Issue) (content : Text) (tree : SourceTree) : FixResult :=
  match Message.propertyName? issue.message with
  | none => .failure issue content "Could not extract property name"
  | some name =>
    match (tree.locateClass? issue.line).bind (·.property? name) with
    | none => .failure issue content "Could not find property declaration"
    | some declared =>
      addValueType issue content declared.line "var" (some ("$" ++ name))
        (completedType issue.message declared.type)

/-- The parameter that lacks a value type: the one a message names, or the first one. -/
def iterableParameter? (message : Text) (f : Callable) : Option (Text × Option Text) :=
  match Message.parameterName? message with
  | some name => some (name, (f.parameter? name).bind (·.type))
  | none => f.parameters.head?.map fun p => (p.name, p.type)

def fixCallableValueType (issue : Issue) (content : Text) (tree : SourceTree) : FixResult :=
  match tree.locate? issue.line SourceTree.bodyTolerance with
  | none => .failure issue content "Could not find function/method near specified line"
  | some located =>
    if (anyCase "return type").occursIn issue.message then
      addValueType issue content located.line "return" none
        (completedType issue.message located.declaration.returnType)
    else
      match iterableParameter? issue.message located.declaration with
      | none => .failure issue content "Could not determine parameter name"
      | some (name, type) =>
        addValueType issue content located.line "param" (some ("$" ++ name))
          (completedType issue.message type)

/-- Gives a parameter, a result or a property a value type. -/
def fixValueType (analyze : Analyzer) (issue : Issue) (content : Text) :
    Except Thrown FixResult :=
  withTree analyze issue content fun tree =>
    .ok (if issue.message.stripLeft.lower.startsWith "property" then
        fixPropertyValueType issue content tree
      else fixCallableValueType issue content tree)

end DocRepair.Fixer
