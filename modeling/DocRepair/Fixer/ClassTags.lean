import DocRepair.Fixer.Basic
import DocRepair.Issue.Message

namespace DocRepair.Fixer

open Pattern Docblock

/-- A tag with a class name: how messages mention the class, and when the tag is there already. -/
structure ClassTag where
  tag : Text
  /-- The class is group 1. -/
  mention : Pattern
  present : (className : Text) → Annotations → Bool

/-- What a class requires of its users, in one of several verbs. -/
def required (verbs : List Text) : Pattern :=
  all [anyCase "require", optional (anyCase "s"), blanks, anyOf (verbs.map anyCase), blanks,
    .group 1 Pattern.className]

private def presentByName (tag className : Text) (annotations : Annotations) : Bool :=
  annotations.hasName tag className

def requireExtends : ClassTag where
  tag := "phpstan-require-extends"
  mention := required ["extends", "extend"]
  present := presentByName "phpstan-require-extends"

def requireImplements : ClassTag where
  tag := "phpstan-require-implements"
  mention := required ["implements", "implement"]
  present := presentByName "phpstan-require-implements"

/-- Only listed classes may extend a class; one such tag is enough. -/
def sealedClass : ClassTag where
  tag := "phpstan-sealed"
  mention := all [anyCase "sealed class", blanks, .group 1 Pattern.className]
  present := fun _ annotations => annotations.hasTag "phpstan-sealed"

def classAddition (c : ClassTag) (issue : Issue) (tree : SourceTree) :
    Except Obstacle Addition := do
  let name ← require (c.mention.find? 1 issue.message) "Could not extract class name"
  let owner ← require (tree.locateClass? issue.line) "Could not locate class for annotation"
  return {
    line := owner.firstLine
    tag := c.tag
    value := name
    present := c.present name
    presentReason := "@" ++ c.tag ++ " already exists for " ++ name
    description := "Added @" ++ c.tag ++ " " ++ name }

def fixClassTag (c : ClassTag) (analyze : Analyzer) (issue : Issue) (content : Text) :
    Except Thrown FixResult :=
  withTree analyze issue content fun tree =>
    annotate issue content (classAddition c issue tree)

end DocRepair.Fixer
