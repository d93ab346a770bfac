import DocRepair.Php.Node
import Mathlib.Order.Nat

namespace DocRepair.Php

namespace Node

/-- The lines of a node hold those of its children, one child behind the other, and so on below. -/
inductive Nested : Node → Prop where
  | mk {kind : NodeKind} {role : Role} {span : Span} {children : List Node}
    (forward : span.firstLine ≤ span.lastLine)
    (inside : ∀ c ∈ children,
      span.firstLine ≤ c.span.firstLine ∧ c.span.lastLine ≤ span.lastLine)
    (order : children.Pairwise fun a b => a.span.lastLine ≤ b.span.firstLine)
    (deeper : ∀ c ∈ children, c.Nested) : Nested (.mk kind role span children)

/-- Nested nodes from one line to another, one behind the other. -/
structure Laid (first last : Nat) (nodes : List Node) : Prop where
  inside : ∀ n ∈ nodes, first ≤ n.span.firstLine ∧ n.span.lastLine ≤ last
  order : nodes.Pairwise fun a b => a.span.lastLine ≤ b.span.firstLine
  nested : ∀ n ∈ nodes, n.Nested

theorem nested_iff {kind : NodeKind} {role : Role} {span : Span} {children : List Node} :
    (mk kind role span children).Nested ↔
      span.firstLine ≤ span.lastLine ∧ Laid span.firstLine span.lastLine children := by
  constructor
  · rintro ⟨forward, inside, order, deeper⟩
    exact ⟨forward, inside, order, deeper⟩
  · rintro ⟨forward, inside, order, deeper⟩
    exact .mk forward inside order deeper

theorem Nested.forward {n : Node} (nested : n.Nested) : n.span.firstLine ≤ n.span.lastLine := by
  cases nested with
  | mk forward => exact forward

/-- The node in no role: what its place depends on. -/
def bare (n : Node) : Node := n.withRole .plain

@[simp] theorem bare_withRole (role : Role) (n : Node) : (n.withRole role).bare = n.bare := by
  cases n
  rfl

@[simp] theorem span_bare (n : Node) : n.bare.span = n.span := by
  cases n
  rfl

@[simp] theorem nested_bare (n : Node) : n.bare.Nested ↔ n.Nested := by
  cases n
  simp only [bare, withRole, nested_iff]

variable {first last : Nat} {nodes front back : List Node}

theorem laid_nil : Laid first last [] := ⟨by simp, .nil, by simp⟩

theorem laid_singleton {n : Node} :
    Laid first last [n] ↔ first ≤ n.span.firstLine ∧ n.span.lastLine ≤ last ∧ n.Nested := by
  constructor
  · intro laid
    obtain ⟨above, below⟩ := laid.inside n (by simp)
    exact ⟨above, below, laid.nested n (by simp)⟩
  · rintro ⟨above, below, nested⟩
    exact ⟨by simp [above, below], List.pairwise_singleton _ _, by simpa using nested⟩

theorem laid_map_bare : Laid first last (nodes.map bare) ↔ Laid first last nodes := by
  constructor
  · rintro ⟨inside, order, nested⟩
    exact ⟨by simpa using inside, by simpa [List.pairwise_map] using order, by simpa using nested⟩
  · rintro ⟨inside, order, nested⟩
    exact ⟨by simpa using inside, by simpa [List.pairwise_map] using order, by simpa using nested⟩

namespace Laid

/-- Fewer nodes, in whatever roles. -/
theorem sublist (laid : Laid first last nodes) (fewer : (front.map bare).Sublist (nodes.map bare)) :
    Laid first last front := by
  rw [← laid_map_bare] at laid ⊢
  exact ⟨fun n member => laid.inside n (fewer.subset member), laid.order.sublist fewer,
    fun n member => laid.nested n (fewer.subset member)⟩

theorem mono {earlier later : Nat} (laid : Laid first last nodes) (above : earlier ≤ first)
    (below : last ≤ later) : Laid earlier later nodes where
  inside n member :=
    ⟨above.trans (laid.inside n member).1, (laid.inside n member).2.trans below⟩
  order := laid.order
  nested := laid.nested

theorem forward (laid : Laid first last nodes) (nonempty : nodes ≠ []) : first ≤ last := by
  obtain ⟨n, member⟩ := List.exists_mem_of_ne_nil nodes nonempty
  obtain ⟨above, below⟩ := laid.inside n member
  exact above.trans ((laid.nested n member).forward.trans below)

/-- Nodes up to a line and then nodes from that line on. -/
theorem append {line next : Nat} (early : Laid first line front) (late : Laid next last back)
    (meet : line ≤ next) (above : first ≤ next) (below : line ≤ last) :
    Laid first last (front ++ back) where
  inside n member := by
    rcases List.mem_append.mp member with early' | late'
    · exact ⟨(early.inside n early').1, (early.inside n early').2.trans below⟩
    · exact ⟨above.trans (late.inside n late').1, (late.inside n late').2⟩
  order := by
    refine List.pairwise_append.mpr ⟨early.order, late.order, fun a before b behind => ?_⟩
    exact (early.inside a before).2.trans (meet.trans (late.inside b behind).1)
  nested n member := (List.mem_append.mp member).elim (early.nested n) (late.nested n)

/-- The nodes behind the first one. -/
theorem tail {n : Node} (laid : Laid first last (n :: nodes)) :
    Laid n.span.lastLine last nodes where
  inside m member :=
    ⟨(List.pairwise_cons.mp laid.order).1 m member, (laid.inside m (by simp [member])).2⟩
  order := (List.pairwise_cons.mp laid.order).2
  nested m member := laid.nested m (by simp [member])

theorem from_node {n : Node} (laid : Laid first last (front ++ n :: back)) :
    Laid n.span.firstLine last (n :: back) ∧ Laid first n.span.firstLine front := by
  obtain ⟨earlier, later, across⟩ := List.pairwise_append.mp laid.order
  have behind := (List.pairwise_cons.mp later).1
  have own := laid.nested n (by simp)
  refine ⟨⟨?_, later, fun m member => laid.nested m (by simp [List.mem_cons.mp member])⟩,
    ⟨fun m member => ?_, earlier, fun m member => laid.nested m (by simp [member])⟩⟩
  · intro m member
    refine ⟨?_, (laid.inside m (by simp [List.mem_cons.mp member])).2⟩
    rcases List.mem_cons.mp member with rfl | deeper
    · exact Nat.le_refl _
    · exact own.forward.trans (behind m deeper)
  · exact ⟨(laid.inside m (by simp [member])).1, across m member n (by simp)⟩

end Laid

end Node

end DocRepair.Php
