import DocRepair.Proofs.Php.Nesting
import DocRepair.Proofs.Php.Slices
import Mathlib.Data.Int.Order.Basic

namespace DocRepair

/-- A declaration from one line to another, which lies between two lines. -/
def Lies (first last start stop : Int) : Prop :=
  first ≤ start ∧ start ≤ stop ∧ stop ≤ last

theorem Lies.mono {first last start stop earlier later : Int} (lies : Lies first last start stop)
    (above : earlier ≤ first) (below : last ≤ later) : Lies earlier later start stop :=
  ⟨above.trans lies.1, lies.2.1, lies.2.2.trans below⟩

/-- Members between two lines, in source order. -/
structure MembersPlaced (first last : Int) (methods : List Callable) (properties : List Property) :
    Prop where
  methodLines : ∀ m ∈ methods, Lies first last m.firstLine m.lastLine
  propertyLines : ∀ p ∈ properties, first ≤ p.line ∧ p.line ≤ last
  methodOrder : methods.Pairwise fun a b => a.lastLine ≤ b.firstLine
  propertyOrder : properties.Pairwise fun a b => a.line ≤ b.line

/-- The members of a class lie inside it. -/
def ClassLike.Placed (c : ClassLike) : Prop :=
  MembersPlaced c.firstLine c.lastLine c.methods c.properties

/-- Functions and classes between two lines, in source order. -/
structure DeclarationsPlaced (first last : Int) (functions : List Callable)
    (classes : List ClassLike) : Prop where
  functionLines : ∀ f ∈ functions, Lies first last f.firstLine f.lastLine
  classLines : ∀ c ∈ classes, Lies first last c.firstLine c.lastLine
  memberLines : ∀ c ∈ classes, c.Placed
  functionOrder : functions.Pairwise fun a b => a.firstLine ≤ b.firstLine
  classOrder : classes.Pairwise fun a b => a.firstLine ≤ b.firstLine

section

variable {first last middle next earlier later : Int} {methods moreMethods : List Callable}
  {properties moreProperties : List Property} {functions moreFunctions : List Callable}
  {classes moreClasses : List ClassLike}

theorem MembersPlaced.mono (placed : MembersPlaced first last methods properties)
    (above : earlier ≤ first) (below : last ≤ later) :
    MembersPlaced earlier later methods properties where
  methodLines m member := (placed.methodLines m member).mono above below
  propertyLines p member :=
    ⟨above.trans (placed.propertyLines p member).1, (placed.propertyLines p member).2.trans below⟩
  methodOrder := placed.methodOrder
  propertyOrder := placed.propertyOrder

theorem DeclarationsPlaced.mono (placed : DeclarationsPlaced first last functions classes)
    (above : earlier ≤ first) (below : last ≤ later) :
    DeclarationsPlaced earlier later functions classes where
  functionLines f member := (placed.functionLines f member).mono above below
  classLines c member := (placed.classLines c member).mono above below
  memberLines := placed.memberLines
  functionOrder := placed.functionOrder
  classOrder := placed.classOrder

theorem MembersPlaced.append (early : MembersPlaced first middle methods properties)
    (late : MembersPlaced middle last moreMethods moreProperties) (above : first ≤ middle)
    (below : middle ≤ last) :
    MembersPlaced first last (methods ++ moreMethods) (properties ++ moreProperties) where
  methodLines m member := (List.mem_append.mp member).elim
    (fun before => (early.methodLines m before).mono (Int.le_refl _) below)
    (fun behind => (late.methodLines m behind).mono above (Int.le_refl _))
  propertyLines p member := (List.mem_append.mp member).elim
    (fun before => (early.propertyLines p before).imp_right (·.trans below))
    (fun behind => (late.propertyLines p behind).imp_left above.trans)
  methodOrder := List.pairwise_append.mpr ⟨early.methodOrder, late.methodOrder,
    fun a before b behind => (early.methodLines a before).2.2.trans (late.methodLines b behind).1⟩
  propertyOrder := List.pairwise_append.mpr ⟨early.propertyOrder, late.propertyOrder,
    fun a before b behind => (early.propertyLines a before).2.trans (late.propertyLines b behind).1⟩

theorem DeclarationsPlaced.append (early : DeclarationsPlaced first middle functions classes)
    (late : DeclarationsPlaced middle last moreFunctions moreClasses) (above : first ≤ middle)
    (below : middle ≤ last) :
    DeclarationsPlaced first last (functions ++ moreFunctions) (classes ++ moreClasses) where
  functionLines f member := (List.mem_append.mp member).elim
    (fun before => (early.functionLines f before).mono (Int.le_refl _) below)
    (fun behind => (late.functionLines f behind).mono above (Int.le_refl _))
  classLines c member := (List.mem_append.mp member).elim
    (fun before => (early.classLines c before).mono (Int.le_refl _) below)
    (fun behind => (late.classLines c behind).mono above (Int.le_refl _))
  memberLines c member :=
    (List.mem_append.mp member).elim (early.memberLines c) (late.memberLines c)
  functionOrder := by
    refine List.pairwise_append.mpr ⟨early.functionOrder, late.functionOrder, ?_⟩
    intro a before b behind
    obtain ⟨_, forward, ends⟩ := early.functionLines a before
    exact forward.trans (ends.trans (late.functionLines b behind).1)
  classOrder := by
    refine List.pairwise_append.mpr ⟨early.classOrder, late.classOrder, ?_⟩
    intro a before b behind
    obtain ⟨_, forward, ends⟩ := early.classLines a before
    exact forward.trans (ends.trans (late.classLines b behind).1)

theorem DeclarationsPlaced.function {f : Callable}
    (inside : DeclarationsPlaced f.firstLine f.lastLine functions classes)
    (forward : f.firstLine ≤ f.lastLine) :
    DeclarationsPlaced f.firstLine f.lastLine (f :: functions) classes where
  functionLines := List.forall_mem_cons.mpr
    ⟨⟨Int.le_refl _, forward, Int.le_refl _⟩, inside.functionLines⟩
  classLines := inside.classLines
  memberLines := inside.memberLines
  functionOrder := List.pairwise_cons.mpr
    ⟨fun g member => (inside.functionLines g member).1, inside.functionOrder⟩
  classOrder := inside.classOrder

theorem DeclarationsPlaced.classLike {c : ClassLike}
    (inside : DeclarationsPlaced c.firstLine c.lastLine functions classes)
    (forward : c.firstLine ≤ c.lastLine) (placed : c.Placed) :
    DeclarationsPlaced c.firstLine c.lastLine functions (c :: classes) where
  functionLines := inside.functionLines
  classLines := List.forall_mem_cons.mpr
    ⟨⟨Int.le_refl _, forward, Int.le_refl _⟩, inside.classLines⟩
  memberLines := List.forall_mem_cons.mpr ⟨placed, inside.memberLines⟩
  functionOrder := inside.functionOrder
  classOrder := List.pairwise_cons.mpr
    ⟨fun d member => (inside.classLines d member).1, inside.classOrder⟩

end

namespace Php

open Node

/-- What has been found lies between two lines. -/
structure Found.Placed (first last : Int) (found : Found) : Prop where
  declarations : DeclarationsPlaced first last found.functions found.classes
  members : MembersPlaced first last found.methods found.properties

theorem Found.Placed.append {first middle last : Int} {a b : Found} (early : a.Placed first middle)
    (late : b.Placed middle last) (above : first ≤ middle) (below : middle ≤ last) :
    (a.append b).Placed first last :=
  ⟨early.declarations.append late.declarations above below,
    early.members.append late.members above below⟩

theorem Found.Placed.mono {first last earlier later : Int} {found : Found}
    (placed : found.Placed first last) (above : earlier ≤ first) (below : last ≤ later) :
    found.Placed earlier later :=
  ⟨placed.declarations.mono above below, placed.members.mono above below⟩

theorem Found.placed_nil {first last : Int} : ({} : Found).Placed first last :=
  ⟨⟨by simp, by simp, by simp, .nil, .nil⟩, ⟨by simp, by simp, .nil, .nil⟩⟩

/-- The class of a node, with the members that have been found inside it. -/
def Node.declaredClass (source : Text) (kind : ClassKind) (n : Node) : ClassLike where
  name := ((n.child? .name).map (·.text source)).getD []
  kind := kind
  firstLine := n.firstLine
  lastLine := n.lastLine
  methods := (gatherAll source true n.children).methods
  properties := (gatherAll source true n.children).properties

/-- The properties of a node are declared on its first line. -/
theorem Node.line_of_mem_properties {source : Text} {n : Node} {p : Property}
    (member : p ∈ n.properties source) : p.line = n.firstLine := by
  obtain ⟨element, _, read⟩ := List.mem_filterMap.mp member
  obtain ⟨v, _, rfl⟩ := Option.map_eq_some_iff.mp read
  rfl

mutual

/-- Without a class around a node, it has no members to give. -/
theorem members_gather_false (source : Text) :
    (n : Node) → (gather source false n).methods = [] ∧ (gather source false n).properties = []
  | .mk kind role span children => by
    have inside := members_gatherAll_false source children
    cases kind <;> simp [gather, Found.append, Found.withoutMembers, inside]

theorem members_gatherAll_false (source : Text) :
    (nodes : List Node) → (gatherAll source false nodes).methods = [] ∧
      (gatherAll source false nodes).properties = []
  | [] => ⟨rfl, rfl⟩
  | n :: rest => by
    have first := members_gather_false source n
    have others := members_gatherAll_false source rest
    simp [gatherAll, Found.append, first, others]

end

mutual

theorem placed_gather (source : Text) (owned : Bool) :
    (n : Node) → n.Nested → (gather source owned n).Placed n.firstLine n.lastLine
  | .mk kind role span children, nested => by
    obtain ⟨forward, laid⟩ := nested_iff.mp nested
    have forward : (span.firstLine : Int) + 1 ≤ span.lastLine + 1 := by omega
    have inside := fun owned => placed_gatherAll source owned children laid
    have alone := members_gatherAll_false source children
    cases kind <;> simp only [gather]
    case namespaceDefinition => exact ⟨(inside owned).declarations, (inside owned).members⟩
    case functionDefinition =>
      have placed := (inside false).declarations.function
        (f := (Node.mk .functionDefinition role span children).callable source) forward
      exact ⟨placed, (inside false).members⟩
    case classLike kind =>
      have placed := (inside true).declarations.classLike
        (c := (Node.mk (.classLike kind) role span children).declaredClass source kind) forward
        (inside true).members
      exact ⟨placed, Found.placed_nil.members⟩
    case methodDeclaration =>
      refine ⟨(inside false).declarations, ?_⟩
      simp only [Found.append, alone, List.append_nil]
      cases owned with
      | false => exact Found.placed_nil.members
      | true =>
        exact ⟨by simpa using ⟨Int.le_refl _, forward, Int.le_refl _⟩, by simp,
          List.pairwise_singleton _ _, .nil⟩
    case propertyDeclaration =>
      refine ⟨Found.placed_nil.declarations, ?_⟩
      cases owned with
      | false => exact Found.placed_nil.members
      | true =>
        refine ⟨by simp, fun p member => ?_, .nil, ?_⟩
        · rw [line_of_mem_properties member]
          exact ⟨Int.le_refl _, forward⟩
        · refine List.pairwise_of_forall_mem_list fun a before b behind => ?_
          rw [line_of_mem_properties before, line_of_mem_properties behind]
    case anonymousClass => exact inside false
    all_goals exact inside owned

theorem placed_gatherAll (source : Text) (owned : Bool) {first last : Nat} :
    (nodes : List Node) → Laid first last nodes →
      (gatherAll source owned nodes).Placed (first + 1) (last + 1)
  | [], _ => Found.placed_nil
  | n :: rest, laid => by
    obtain ⟨above, below⟩ := laid.inside n (by simp)
    have nested := laid.nested n (by simp)
    have forward := nested.forward
    have head := placed_gather source owned n nested
    have tail := placed_gatherAll source owned rest laid.tail
    rw [gatherAll]
    refine (head.mono ?_ (Int.le_refl _)).append tail ?_ ?_
    · simp only [Node.firstLine]
      omega
    · simp only [Node.lastLine]
      omega
    · simp only [Node.lastLine]
      omega

end

end Php

end DocRepair
