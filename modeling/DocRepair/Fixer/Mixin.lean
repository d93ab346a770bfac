import DocRepair.Fixer.Basic
import DocRepair.Issue.Message

/-!
The fixer for classes that hand unknown members on to another class.

The other class is that of the property which the magic methods use, or of a property with a
telling name, or of such a property in the docblock of the class.
-/

namespace DocRepair.Fixer

open Pattern Docblock

/-- The methods that receive unknown members. -/
def magicMethods : List Text := ["__call", "__get", "__set", "__callStatic"]

/-- Names of properties that hold the other object. -/
def delegateName : Pattern :=
  all [.anchor .textStart, optional (exactly "$"),
    anyOf ([("delegate" : Text), "delegator", "target", "handler", "wrapped", "inner",
      "backing"].map anyCase),
    .anchor .lastLineEnd]

/-- A class name without backslashes at its start. -/
def dropBackslashes (t : Text) : Text :=
  t.dropWhile fun c => c == '\\'

/-- The type that a docblock above a property declares first. -/
def documentedType? (lines : List Text) (p : Property) : Option Text := do
  let block ← Docblock.locate? lines (p.line - 1)
  let entry ← ((parse block.text).listOf "var").head?
  let type ← entry.type.bind nonempty?
  return dropBackslashes type

/-- The class of a property: as declared, or else as documented. -/
def propertyClass? (lines : List Text) (p : Property) : Option Text :=
  match p.type.bind nonempty? with
  | some type => some (dropBackslashes (type.dropWhile fun c => c == '?'))
  | none => documentedType? lines p

/-- The first class of several properties that is not empty. -/
def firstClass? (lines : List Text) (properties : List Property) : Option Text :=
  properties.findSome? fun p => (propertyClass? lines p).bind nonempty?

/-- The class of a telling property in the docblock of a class. -/
def documentedDelegate? (lines : List Text) (c : ClassLike) : Option Text := do
  let block ← Docblock.locate? lines (c.firstLine - 1)
  let annotations := parse block.text
  let entries := annotations.listOf "property" ++ annotations.listOf "property-read"
  entries.findSome? fun entry => do
    let name ← entry.name.bind nonempty?
    let type ← entry.type.bind nonempty?
    if (delegateName.match? name).isSome then some (dropBackslashes type) else none

def mixinClass? (lines : List Text) (c : ClassLike) (magic : List Callable) : Option Text :=
  let used := magic.filterMap fun m => m.mainDelegate?.bind c.property?
  let telling := c.properties.filter fun p => (delegateName.match? p.name).isSome
  (firstClass? lines used).orElse fun _ =>
    (firstClass? lines telling).orElse fun _ => documentedDelegate? lines c

/-- The lines of a content, whatever their endings. -/
def plainLines (content : Text) : List Text :=
  (Text.replace "\r\n" "\n" content).lines

/-- The tag with the other class. -/
def mixinAddition (issue : Issue) (content : Text) (tree : SourceTree) :
    Except Obstacle Addition := do
  let owner ← require (tree.locateClass? issue.line) "Could not find target class"
  let magic := magicMethods.filterMap owner.method?
  if magic.isEmpty then
    throw (.reason "Class does not have magic methods (__call, __get, __set)")
  let mixin ← require (mixinClass? (plainLines content) owner magic)
    "Could not determine mixin class name"
  return {
    line := owner.firstLine
    tag := "mixin"
    value := mixin
    present := fun annotations => (annotations.listOf "mixin").any fun entry =>
      entry.name.any (dropBackslashes · == mixin)
    presentReason := "@mixin already exists"
    description := "Added @mixin " ++ mixin }

/-- Documents the class that unknown members are handed on to. -/
def fixMixin (analyze : Analyzer) (issue : Issue) (content : Text) :
    Except Thrown FixResult :=
  withTree analyze issue content fun tree =>
    annotate issue content (mixinAddition issue content tree)

end DocRepair.Fixer
