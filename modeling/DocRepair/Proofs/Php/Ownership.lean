import DocRepair.Php.Source
import DocRepair.Proofs.Php.DeclarationPlaces
import DocRepair.Proofs.Php.OrderlyGrammar

/-!
Which class a member belongs to, and that the declarations of a source are well formed.

Members are looked for below a class, but not inside another class, a function, another method or a
property. So a member belongs to the nearest class around it, if there is nothing of this between.
-/

namespace DocRepair.Php

/-- Nodes that may stand between a class and its members. -/
def NodeKind.isOpen : NodeKind → Bool
  | .functionDefinition | .classLike _ | .methodDeclaration | .propertyDeclaration
  | .anonymousClass => false
  | _ => true

namespace Node

/-- A node is another one, or that one lies below it, with only open nodes between and the first one
open, too. -/
inductive Reaches : Node → Node → Prop where
  | self (n : Node) : Reaches n n
  | through {n child d : Node} (isOpen : n.kind.isOpen = true) (member : child ∈ n.children)
    (deeper : Reaches child d) : Reaches n d

/-- A node lies below a class, with only open nodes between. -/
def Owns (k d : Node) : Prop := ∃ child ∈ k.children, child.Reaches d

/-- A node is another one, or that one lies below it, and not inside a property. -/
inductive Visits : Node → Node → Prop where
  | self (n : Node) : Visits n n
  | through {n child d : Node} (other : n.kind ≠ .propertyDeclaration) (member : child ∈ n.children)
    (deeper : Visits child d) : Visits n d

variable {kind : NodeKind} {role : Role} {span : Span} {children : List Node} {d : Node}

theorem reaches_mk : (mk kind role span children).Reaches d ↔
    d = mk kind role span children ∨ kind.isOpen = true ∧ ∃ child ∈ children, child.Reaches d := by
  constructor
  · intro reaches
    cases reaches with
    | self => exact .inl rfl
    | through isOpen member deeper => exact .inr ⟨isOpen, _, member, deeper⟩
  · rintro (rfl | ⟨isOpen, child, member, deeper⟩)
    · exact .self _
    · exact .through isOpen member deeper

theorem visits_mk : (mk kind role span children).Visits d ↔
    d = mk kind role span children ∨
      kind ≠ .propertyDeclaration ∧ ∃ child ∈ children, child.Visits d := by
  constructor
  · intro visits
    cases visits with
    | self => exact .inl rfl
    | through other member deeper => exact .inr ⟨other, _, member, deeper⟩
  · rintro (rfl | ⟨other, child, member, deeper⟩)
    · exact .self _
    · exact .through other member deeper

@[simp] theorem kind_mk : (mk kind role span children).kind = kind := rfl

@[simp] theorem children_mk : (mk kind role span children).children = children := rfl

end Node

open Node

/-- What has been found are exactly the declarations of the nodes visited, and exactly the members
of the nodes reached, if they belong to a class. -/
structure Found.ReadOff (source : Text) (owned : Bool) (visits reaches : Node → Prop)
    (found : Found) : Prop where
  functions : ∀ f, f ∈ found.functions ↔
    ∃ d, visits d ∧ d.kind = .functionDefinition ∧ f = d.callable source
  classes : ∀ c, c ∈ found.classes ↔
    ∃ d kind, visits d ∧ d.kind = .classLike kind ∧ c = d.declaredClass source kind
  methods : ∀ m, m ∈ found.methods ↔ owned = true ∧
    ∃ d, reaches d ∧ d.kind = .methodDeclaration ∧ m = d.callable source
  properties : ∀ p, p ∈ found.properties ↔ owned = true ∧
    ∃ d, reaches d ∧ d.kind = .propertyDeclaration ∧ p ∈ d.properties source

mutual

theorem readOff_gather (source : Text) (owned : Bool) :
    (n : Node) → (gather source owned n).ReadOff source owned n.Visits n.Reaches
  | .mk kind role span children => by
    have inside := fun owned => readOff_gatherAll source owned children
    have functions := fun owned => (inside owned).functions
    have classes := fun owned => (inside owned).classes
    have methods := fun owned => (inside owned).methods
    have properties := fun owned => (inside owned).properties
    -- A node gives what it declares itself, and then what is declared below it.
    constructor
    · intro f
      cases kind <;> simp [gather, Found.append, Found.withoutMembers, functions, visits_mk,
        or_and_right, exists_or]
    · intro c
      cases kind <;> simp [gather, Found.append, Found.withoutMembers, classes, visits_mk,
        or_and_right, exists_or, declaredClass]
    · intro m
      cases kind <;> cases owned <;> simp [gather, Found.append, Found.withoutMembers, methods,
        reaches_mk, or_and_right, exists_or, NodeKind.isOpen]
    · intro p
      cases kind <;> cases owned <;> simp [gather, Found.append, Found.withoutMembers, properties,
        reaches_mk, or_and_right, exists_or, NodeKind.isOpen]

theorem readOff_gatherAll (source : Text) (owned : Bool) :
    (nodes : List Node) → (gatherAll source owned nodes).ReadOff source owned
      (fun d => ∃ n ∈ nodes, n.Visits d) (fun d => ∃ n ∈ nodes, n.Reaches d)
  | [] => ⟨by simp [gatherAll], by simp [gatherAll], by simp [gatherAll], by simp [gatherAll]⟩
  | n :: rest => by
    have first := readOff_gather source owned n
    have others := readOff_gatherAll source owned rest
    rw [gatherAll]
    constructor
    · simp [Found.append, first.functions, others.functions, or_and_right, exists_or]
    · simp [Found.append, first.classes, others.classes, or_and_right, exists_or]
    · simp [Found.append, first.methods, others.methods, or_and_right, exists_or, and_or_left]
    · simp [Found.append, first.properties, others.properties, or_and_right, exists_or, and_or_left]

end

/-! ### Well-formed declarations -/

theorem positions_parametersFrom (source : Text) (position : Nat) (nodes : List Node) :
    (parametersFrom source position nodes).map (·.position) =
      List.range' position (parametersFrom source position nodes).length := by
  fun_induction parametersFrom source position nodes with
  | case1 => rfl
  | case2 position n rest _ name _ ih => simp [ih, List.range'_succ]
  | case3 position n rest _ _ ih => exact ih
  | case4 position n rest _ ih => exact ih

/-- The declarations of a tree are in their places: functions and classes stand on the lines of the
source and members on those of their class, all in source order; parameters are numbered from zero
on; and a class lists exactly the members that belong to it. -/
structure WellFormed (source : Text) (root : Node) (tree : SourceTree) : Prop where
  placed : DeclarationsPlaced 1 (source.count ('\n' : CodePoint) + 1) tree.functions tree.classes
  methodStarts : ∀ c ∈ tree.classes, c.methods.Pairwise fun a b => a.firstLine ≤ b.firstLine
  positions : ∀ l ∈ tree.callables,
    l.declaration.parameters.map (·.position) = List.range l.declaration.parameters.length
  owners : ∀ c ∈ tree.classes, ∃ k, root.Visits k ∧ k.kind = .classLike c.kind ∧
    c.firstLine = k.firstLine ∧ c.lastLine = k.lastLine ∧
    (∀ m, m ∈ c.methods ↔ ∃ d, k.Owns d ∧ d.kind = .methodDeclaration ∧ m = d.callable source) ∧
    ∀ p, p ∈ c.properties ↔ ∃ d, k.Owns d ∧ d.kind = .propertyDeclaration ∧ p ∈ d.properties source

variable {source : Text} {root : Node}

theorem exists_owner {c : ClassLike} (member : c ∈ (root.declarations source).classes) :
    ∃ k, root.Visits k ∧ k.kind = .classLike c.kind ∧
      c.firstLine = k.firstLine ∧ c.lastLine = k.lastLine ∧
      (∀ m, m ∈ c.methods ↔ ∃ d, k.Owns d ∧ d.kind = .methodDeclaration ∧ m = d.callable source) ∧
      ∀ p, p ∈ c.properties ↔
        ∃ d, k.Owns d ∧ d.kind = .propertyDeclaration ∧ p ∈ d.properties source := by
  obtain ⟨k, kind, visits, same, rfl⟩ := ((readOff_gather source false root).classes c).mp member
  have inside := readOff_gatherAll source true k.children
  refine ⟨k, visits, same, rfl, rfl, fun m => ?_, fun p => ?_⟩
  · exact (inside.methods m).trans (and_iff_right rfl)
  · exact (inside.properties p).trans (and_iff_right rfl)

theorem wellFormed_declarations (nested : root.Nested)
    (inside : root.span.lastLine ≤ source.count ('\n' : CodePoint)) :
    WellFormed source root (root.declarations source) where
  placed := by
    refine (placed_gather source false root nested).declarations.mono ?_ ?_
    · simp only [Node.firstLine]
      omega
    · simp only [Node.lastLine]
      omega
  methodStarts c member := by
    have placed := (placed_gather source false root nested).declarations.memberLines c member
    refine placed.methodOrder.imp_of_mem fun {a b} before _ meet => ?_
    exact (placed.methodLines a before).2.1.trans meet
  positions l member := by
    obtain ⟨n, read⟩ := exists_node_of_mem_callables member
    rw [read, List.range_eq_range']
    exact positions_parametersFrom source 0 _
  owners _ := exists_owner

/-- The declarations of a source are well formed, whatever the source. This holds of every tree
whose nodes lie inside one another on the lines of the source, and the tree of a source is one. -/
theorem declarations_wellFormed (source : Text) :
    (∀ root : Node, root.Nested → root.span.lastLine ≤ source.count ('\n' : CodePoint) →
      WellFormed source root (root.declarations source)) ∧
    ∀ tree, declarations? source = some tree →
      ∃ root, tree? source = some root ∧ WellFormed source root tree := by
  refine ⟨fun root => wellFormed_declarations, fun tree read => ?_⟩
  obtain ⟨root, parsed, rfl⟩ := Option.map_eq_some_iff.mp read
  obtain ⟨nested, inside⟩ := nested_tree? parsed
  exact ⟨root, parsed, wellFormed_declarations nested inside⟩

/-- A class with a property, a method that makes an object of a class without a name, and a method
with another class inside. -/
def nestedClasses : Text :=
  "<?php\nclass A\n\x7b\n  private $p;\n  function m()\n  \x7b\n" ++
    "    return new class \x7b function x() \x7b\x7d \x7d;\n  \x7d\n" ++
    "  function n() \x7b class B \x7b function y() \x7b\x7d \x7d \x7d\n\x7d\n"

/-- Each class lists its own members, and nobody lists that of the class without a name. -/
theorem declarations_wellFormed_sample :
    ∃ root tree, root.Nested ∧ declarations? nestedClasses = some tree ∧
      tree = root.declarations nestedClasses ∧ WellFormed nestedClasses root tree ∧
      tree.classes.map (·.name) = (["A", "B"] : List Text) ∧
      tree.classes.map (·.methods.map (·.name)) = ([["m", "n"], ["y"]] : List (List Text)) ∧
      tree.classes.map (·.properties.map (·.name)) = ([["p"], []] : List (List Text)) := by
  have read : (declarations? nestedClasses).map (fun tree => (tree.classes.map (·.name),
      tree.classes.map (·.methods.map (·.name)), tree.classes.map (·.properties.map (·.name)))) =
      some ((["A", "B"] : List Text), ([["m", "n"], ["y"]] : List (List Text)),
        ([["p"], []] : List (List Text))) := by
    decide +kernel
  obtain ⟨tree, found, listed⟩ := Option.map_eq_some_iff.mp read
  obtain ⟨names, methods, properties⟩ : _ ∧ _ ∧ _ := by simpa using listed
  obtain ⟨root, parsed, _⟩ := (declarations_wellFormed nestedClasses).2 tree found
  obtain ⟨nested, inside⟩ := nested_tree? parsed
  have same : tree = root.declarations nestedClasses := by
    rw [declarations?, parsed] at found
    exact (Option.some.inj found).symm
  have formed := (declarations_wellFormed nestedClasses).1 root nested inside
  exact ⟨root, tree, nested, found, same, same ▸ formed, names, methods, properties⟩

end DocRepair.Php
