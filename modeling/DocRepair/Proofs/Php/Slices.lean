import DocRepair.Php.Declarations
import DocRepair.Proofs.Text.Trimmed
import DocRepair.Source.Locate

namespace DocRepair.Php

open Text

/-- What has been found consists of functions, methods and properties that have been read off
nodes. -/
structure Found.OffNodes (source : Text) (found : Found) : Prop where
  functions : ∀ f ∈ found.functions, ∃ n : Node, f = n.callable source
  members : ∀ c ∈ found.classes, ∀ m ∈ c.methods, ∃ n : Node, m = n.callable source
  fields : ∀ c ∈ found.classes, ∀ p ∈ c.properties, ∃ n : Node, p ∈ n.properties source
  methods : ∀ m ∈ found.methods, ∃ n : Node, m = n.callable source
  properties : ∀ p ∈ found.properties, ∃ n : Node, p ∈ n.properties source

namespace Found

theorem OffNodes.append {source : Text} {a b : Found} (first : a.OffNodes source)
    (second : b.OffNodes source) : (a.append b).OffNodes source where
  functions f member := (List.mem_append.mp member).elim (first.functions f) (second.functions f)
  members c member := (List.mem_append.mp member).elim (first.members c) (second.members c)
  fields c member := (List.mem_append.mp member).elim (first.fields c) (second.fields c)
  methods m member := (List.mem_append.mp member).elim (first.methods m) (second.methods m)
  properties p member :=
    (List.mem_append.mp member).elim (first.properties p) (second.properties p)

theorem OffNodes.withoutMembers {source : Text} {found : Found} (off : found.OffNodes source) :
    found.withoutMembers.OffNodes source :=
  ⟨off.functions, off.members, off.fields, by simp [Found.withoutMembers],
    by simp [Found.withoutMembers]⟩

end Found

mutual

theorem offNodes_gather (source : Text) (owned : Bool) :
    (n : Node) → (gather source owned n).OffNodes source
  | .mk kind role span children => by
    have inside := fun owned => offNodes_gatherAll source owned children
    cases kind <;> simp only [gather]
    case namespaceDefinition =>
      exact .append ⟨by simp, by simp, by simp, by simp, by simp⟩ (inside owned)
    case functionDefinition =>
      exact .append ⟨by simp, by simp, by simp, by simp, by simp⟩ (inside false)
    case classLike =>
      exact .append ⟨by simp, by simpa using (inside true).methods,
        by simpa using (inside true).properties, by simp, by simp⟩ (inside true).withoutMembers
    case methodDeclaration =>
      refine .append ⟨by simp, by simp, by simp, ?_, by simp⟩ (inside false)
      cases owned <;> simp
    case propertyDeclaration =>
      refine ⟨by simp, by simp, by simp, by simp, ?_⟩
      cases owned
      · simp
      · exact fun p member => ⟨_, member⟩
    case anonymousClass => exact inside false
    all_goals exact inside owned

theorem offNodes_gatherAll (source : Text) (owned : Bool) :
    (nodes : List Node) → (gatherAll source owned nodes).OffNodes source
  | [] => ⟨by simp [gatherAll], by simp [gatherAll], by simp [gatherAll], by simp [gatherAll],
      by simp [gatherAll]⟩
  | n :: rest => by
    rw [gatherAll]
    exact (offNodes_gather source owned n).append (offNodes_gatherAll source owned rest)

end

/-- Every function and method of a source has been read off a node. -/
theorem exists_node_of_mem_callables {source : Text} {root : Node} {l : Located}
    (member : l ∈ (root.declarations source).callables) :
    ∃ n : Node, l.declaration = n.callable source := by
  have off := offNodes_gather source false root
  rcases List.mem_append.mp member with free | owned
  · obtain ⟨f, inside, rfl⟩ := List.mem_map.mp free
    exact off.functions f inside
  · obtain ⟨c, inside, deeper⟩ := List.mem_flatMap.mp owned
    obtain ⟨m, method, rfl⟩ := List.mem_map.mp deeper
    exact off.members c inside m method

theorem Node.text_isInfix (source : Text) (n : Node) : n.text source <:+: source := by
  have front := List.take_prefix (n.span.stop - n.span.start) (source.drop n.span.start)
  exact front.isInfix.trans (List.drop_suffix _ _).isInfix

theorem returnType_isInfix {source : Text} {root : Node} {l : Located}
    (member : l ∈ (root.declarations source).callables) :
    ∀ type ∈ l.declaration.returnType, type <:+: source := by
  obtain ⟨n, read⟩ := exists_node_of_mem_callables member
  intro type declared
  rw [read, Option.mem_def, Node.callable, Option.map_eq_some_iff] at declared
  obtain ⟨inner, _, rfl⟩ := declared
  exact (strip_isInfix _).trans
    ((List.dropWhile_suffix _).isInfix.trans (inner.text_isInfix source))

theorem declaredType_isInfix (source : Text) (child : Option Node) :
    ∀ type ∈ child.map (·.text source), type <:+: source := by
  intro type declared
  obtain ⟨inner, _, rfl⟩ := Option.map_eq_some_iff.mp declared
  exact inner.text_isInfix source

theorem parametersFrom_isInfix (source : Text) (position : Nat) (nodes : List Node) :
    ∀ p ∈ parametersFrom source position nodes,
      p.name <:+: source ∧ ∀ type ∈ p.type, type <:+: source := by
  fun_induction parametersFrom source position nodes with
  | case1 => simp
  | case2 position n rest _ name _ ih =>
    refine List.forall_mem_cons.mpr ⟨⟨?_, declaredType_isInfix source _⟩, ih⟩
    exact (List.dropWhile_suffix _).isInfix.trans (name.text_isInfix source)
  | case3 position n rest _ _ ih => exact ih
  | case4 position n rest _ ih => exact ih

theorem propertyType_isInfix {source : Text} {n : Node} {p : Property}
    (member : p ∈ n.properties source) : ∀ type ∈ p.type, type <:+: source := by
  obtain ⟨element, _, read⟩ := List.mem_filterMap.mp member
  obtain ⟨v, _, rfl⟩ := Option.map_eq_some_iff.mp read
  exact declaredType_isInfix source _

end DocRepair.Php

namespace DocRepair

/-- The types and parameter names of declarations are parts of a source. -/
structure SourceTree.CutFrom (source : Text) (tree : SourceTree) : Prop where
  results : ∀ l ∈ tree.callables, ∀ type ∈ l.declaration.returnType, type <:+: source
  parameters : ∀ l ∈ tree.callables, ∀ p ∈ l.declaration.parameters,
    p.name <:+: source ∧ ∀ type ∈ p.type, type <:+: source
  properties : ∀ c ∈ tree.classes, ∀ p ∈ c.properties, ∀ type ∈ p.type, type <:+: source

theorem Php.declarations_cutFrom (source : Text) (root : Php.Node) :
    (root.declarations source).CutFrom source where
  results _ member := returnType_isInfix member
  parameters l member := by
    obtain ⟨n, read⟩ := exists_node_of_mem_callables member
    rw [read]
    exact parametersFrom_isInfix source 0 _
  properties c member p declared := by
    obtain ⟨n, read⟩ := (offNodes_gather source false root).fields c member p declared
    exact propertyType_isInfix read

end DocRepair
