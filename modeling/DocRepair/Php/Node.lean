import DocRepair.Source.Tree
import DocRepair.Text.CodePoint

namespace DocRepair.Php

/-- The kinds of nodes that declarations are read from; all others are alike. -/
inductive NodeKind where
  | namespaceDefinition
  | functionDefinition
  | classLike (kind : ClassKind)
  | methodDeclaration
  | propertyDeclaration
  | propertyElement
  | anonymousClass
  | parameter
  /-- Access to a member, or a call of one. -/
  | member (nullsafe call : Bool)
  /-- Access to a static property. -/
  | staticProperty
  | returnStatement
  | variable
  | other
  deriving DecidableEq, Repr

inductive Role where
  | name
  | type
  | returnType
  | parameters
  | body
  /-- The value whose member is accessed. -/
  | object
  | plain
  deriving DecidableEq, Repr

/-- A part of the source: offsets, and lines counted from zero. -/
structure Span where
  start : Nat
  stop : Nat
  firstLine : Nat
  lastLine : Nat
  deriving DecidableEq, Repr

def Span.text (source : Text) (s : Span) : Text :=
  (source.drop s.start).take (s.stop - s.start)

inductive Node where
  | mk (kind : NodeKind) (role : Role) (span : Span) (children : List Node)
  deriving Repr

namespace Node

def kind : Node → NodeKind
  | .mk kind _ _ _ => kind

def role : Node → Role
  | .mk _ role _ _ => role

def span : Node → Span
  | .mk _ _ span _ => span

def children : Node → List Node
  | .mk _ _ _ children => children

def withRole (role : Role) : Node → Node
  | .mk kind _ span children => .mk kind role span children

/-- The first child in a role. -/
def child? (n : Node) (role : Role) : Option Node :=
  n.children.find? (·.role == role)

def text (source : Text) (n : Node) : Text := n.span.text source

/-- The line of the start of a node, counted from one. -/
def firstLine (n : Node) : Int := n.span.firstLine + 1

/-- The line of the end of a node, counted from one. -/
def lastLine (n : Node) : Int := n.span.lastLine + 1

mutual

/-- A node and everything below it, in source order. -/
def walk : Node → List Node
  | .mk kind role span children => .mk kind role span children :: walkAll children

/-- Several nodes and everything below them, in source order. -/
def walkAll : List Node → List Node
  | [] => []
  | n :: rest => walk n ++ walkAll rest

end

end Node

end DocRepair.Php
