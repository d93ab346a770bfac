import DocRepair.Php.Node
import DocRepair.Text.Blank

namespace DocRepair.Php

/-- What has been found below a node. Methods and properties are those of the class around it. -/
structure Found where
  namespaceName : Option Text := none
  functions : List Callable := []
  classes : List ClassLike := []
  methods : List Callable := []
  properties : List Property := []

namespace Found

/-- What has been found in one place and then in another. -/
def append (a b : Found) : Found where
  namespaceName := a.namespaceName <|> b.namespaceName
  functions := a.functions ++ b.functions
  classes := a.classes ++ b.classes
  methods := a.methods ++ b.methods
  properties := a.properties ++ b.properties

/-- What is left of it outside the class around it. -/
def withoutMembers (f : Found) : Found :=
  { f with methods := [], properties := [] }

end Found

def Node.isValueReturn (n : Node) : Bool :=
  n.kind == .returnStatement && !n.children.isEmpty

/-- The property of the object itself, or the static property, that a node uses a member of. -/
def Node.delegate? (source : Text) (n : Node) : Option Text :=
  match n.kind with
  | .member _ _ =>
    match n.child? .object with
    | none => none
    | some target =>
      match target.kind with
      | .member false false =>
        match target.child? .object, target.child? .name with
        | some receiver, some name =>
          if receiver.text source == ("$this" : Text) then some (name.text source) else none
        | _, _ => none
      | .staticProperty => (target.child? .name).map fun name => dropDollars (name.text source)
      | _ => none
  | _ => none

/-- A parameter name without its marks. -/
def parameterName (t : Text) : Text :=
  t.dropWhile fun c => c == '&' || c == '$'

/-- The parameters below a node, numbered from a position on. -/
def parametersFrom (source : Text) : (position : Nat) → List Node → List Parameter
  | _, [] => []
  | position, n :: rest =>
    if n.kind == .parameter then
      match n.child? .name with
      | some name =>
        ⟨parameterName (name.text source), (n.child? .type).map (·.text source), position⟩ ::
          parametersFrom source (position + 1) rest
      | none => parametersFrom source position rest
    else parametersFrom source position rest

/-- A result type without colons in front and without white space around it. -/
def resultType (t : Text) : Text :=
  Text.strip (t.dropWhile fun c => c == ':')

def Node.callable (source : Text) (n : Node) : Callable :=
  let body := n.child? .body
  let inside := match body with
    | some b => b.walk
    | none => []
  { name := ((n.child? .name).map (·.text source)).getD []
    firstLine := n.firstLine
    lastLine := n.lastLine
    parameters := parametersFrom source 0 (((n.child? .parameters).map (·.children)).getD [])
    returnType := (n.child? .returnType).map fun type => resultType (type.text source)
    hasBody := body.isSome
    returnsValue := inside.any Node.isValueReturn
    delegates := inside.filterMap (Node.delegate? source) }

def Node.properties (source : Text) (n : Node) : List Property :=
  let type := (n.child? .type).map (·.text source)
  (n.children.filter (·.kind == .propertyElement)).filterMap fun element =>
    (element.children.find? (·.kind == .variable)).map fun v =>
      ⟨dropDollars (v.text source), type, n.firstLine⟩

mutual

/-- What a node declares; `owned` says whether its members belong to a class around it. -/
def gather (source : Text) (owned : Bool) : Node → Found
  | .mk kind role span children =>
    let n := Node.mk kind role span children
    match kind with
    | .namespaceDefinition =>
      Found.append { namespaceName := (n.child? .name).map (·.text source) }
        (gatherAll source owned children)
    | .functionDefinition =>
      Found.append { functions := [n.callable source] } (gatherAll source false children)
    | .classLike classKind =>
      let inside := gatherAll source true children
      let found : ClassLike :=
        { name := ((n.child? .name).map (·.text source)).getD []
          kind := classKind
          firstLine := n.firstLine
          lastLine := n.lastLine
          methods := inside.methods
          properties := inside.properties }
      Found.append { classes := [found] } inside.withoutMembers
    | .methodDeclaration =>
      Found.append { methods := if owned then [n.callable source] else [] }
        (gatherAll source false children)
    | .propertyDeclaration => { properties := if owned then n.properties source else [] }
    | .anonymousClass => gatherAll source false children
    | _ => gatherAll source owned children

/-- What several nodes declare. -/
def gatherAll (source : Text) (owned : Bool) : List Node → Found
  | [] => {}
  | n :: rest => (gather source owned n).append (gatherAll source owned rest)

end

def Node.declarations (source : Text) (n : Node) : SourceTree :=
  let found := gather source false n
  { namespaceName := found.namespaceName, functions := found.functions, classes := found.classes }

end DocRepair.Php
