import Mathlib.Data.List.Permutation

/-!
Lists without some of their places, first items, and stable sorting.

What is left of a list keeps its order. Sorting may come before or after leaving something out, so
items of one key stay in the order in which they stood.
-/

namespace DocRepair

variable {α : Type}

def keptAt (keep : Nat → Bool) (xs : List α) : List α :=
  (xs.zipIdx.filter fun x => keep x.2).map (·.1)

theorem keptAt_concat (keep : Nat → Bool) (xs : List α) (x : α) :
    keptAt keep (xs ++ [x]) = keptAt keep xs ++ if keep xs.length then [x] else [] := by
  simp only [keptAt, List.zipIdx_append, List.filter_append, List.map_append, Nat.zero_add]
  by_cases kept : keep xs.length = true
  · simp [kept]
  · simp [kept]

theorem keptAt_sublist (keep : Nat → Bool) (xs : List α) : (keptAt keep xs).Sublist xs := by
  have all : xs.zipIdx.map (·.1) = xs := by simp
  have kept := (List.filter_sublist (l := xs.zipIdx) (p := fun x => keep x.2)).map (·.1)
  rwa [all] at kept

/-- Every item is kept, or stands at a place that is left out. -/
theorem mem_keptAt_or {keep : Nat → Bool} {xs : List α} {x : α} (member : x ∈ xs) :
    x ∈ keptAt keep xs ∨ ∃ place, (x, place) ∈ xs.zipIdx ∧ keep place = false := by
  obtain ⟨place, here, rfl⟩ := List.mem_iff_getElem.mp member
  have placed : (xs[place], place) ∈ xs.zipIdx :=
    List.mem_zipIdx_iff_getElem?.mpr (List.getElem?_eq_getElem here)
  by_cases kept : keep place = true
  · left
    exact List.mem_map.mpr ⟨_, List.mem_filter.mpr ⟨placed, kept⟩, rfl⟩
  · right
    exact ⟨place, placed, by simpa using kept⟩

/-- Among items with different keys, the first that passes has the key of a given one if and only
if that one passes and none before it does. -/
theorem find?_key_iff {β : Type} {key : α → β} {p : α → Bool} {xs : List α} {x : α} {i : Nat}
    (distinct : (xs.map key).Nodup) (place : xs[i]? = some x) :
    (xs.find? p).map key = some (key x) ↔ p x = true ∧ ∀ y ∈ xs.take i, p y = false := by
  obtain ⟨within, rfl⟩ := List.getElem?_eq_some_iff.mp place
  rw [Option.map_eq_some_iff]
  constructor
  · rintro ⟨y, first, same⟩
    obtain ⟨passes, j, within', rfl, before⟩ := List.find?_eq_some_iff_getElem.mp first
    have here : (xs.map key)[j]? = (xs.map key)[i]? := by
      simp [within, within', same]
    obtain rfl := (List.getElem?_inj (by simpa using within') distinct).mp here
    refine ⟨passes, ?_⟩
    intro y member
    obtain ⟨place', early, rfl⟩ := List.mem_take_iff_getElem.mp member
    simpa using before place' (Nat.lt_min.mp early).1
  · rintro ⟨passes, before⟩
    refine ⟨xs[i], List.find?_eq_some_iff_getElem.mpr ⟨passes, i, within, rfl, ?_⟩, rfl⟩
    intro j early
    rw [before _ (List.mem_take_iff_getElem.mpr ⟨j, by omega, rfl⟩)]
    rfl

section Sorting

variable {le : α → α → Bool} (trans : ∀ a b c, le a b = true → le b c = true → le a c = true)
  (total : ∀ a b, (le a b || le b a) = true)

include trans total in
/-- A further item goes between those that may not follow it and those that may. -/
theorem mergeSort_cons_of_split {a : α} {l front back : List α}
    (sorted : l.mergeSort le = front ++ back) (above : ∀ b ∈ front, le a b = false)
    (below : ∀ b ∈ back, le a b = true) : (a :: l).mergeSort le = front ++ a :: back := by
  obtain ⟨front', back', whole, rest, above'⟩ := List.mergeSort_cons trans total a l
  have descending := List.pairwise_mergeSort trans total (a :: l)
  rw [whole, List.pairwise_append, List.pairwise_cons] at descending
  have below' : ∀ b ∈ back', le a b = true := descending.2.1.1
  have same : front ++ back = front' ++ back' := sorted.symm.trans rest
  -- Both splits are made where `a` comes first.
  have split : ∀ {xs ys : List α}, (∀ b ∈ xs, le a b = false) → (∀ b ∈ ys, le a b = true) →
      (xs ++ ys).filter (fun b => le a b) = ys ∧ (xs ++ ys).filter (fun b => !le a b) = xs := by
    intro xs ys higher lower
    constructor
    · rw [List.filter_append, List.filter_eq_nil_iff.mpr (by simpa using higher),
        List.filter_eq_self.mpr lower, List.nil_append]
    · rw [List.filter_append, List.filter_eq_self.mpr (by simpa using higher),
        List.filter_eq_nil_iff.mpr (by simpa using lower), List.append_nil]
  obtain ⟨backs, fronts⟩ := split above below
  obtain ⟨backs', fronts'⟩ := split (fun b member => by simpa using above' b member) below'
  rw [same] at backs fronts
  rw [whole, ← fronts'.symm.trans fronts, ← backs'.symm.trans backs]

include trans total in
/-- Leaving items out of a sorted list is sorting what is left of the list. -/
theorem filter_mergeSort (p : α → Bool) (l : List α) :
    (l.mergeSort le).filter p = (l.filter p).mergeSort le := by
  induction l with
  | nil => simp
  | cons a l ih =>
    obtain ⟨front, back, whole, rest, above⟩ := List.mergeSort_cons trans total a l
    have descending := List.pairwise_mergeSort trans total (a :: l)
    rw [whole, List.pairwise_append, List.pairwise_cons] at descending
    rw [rest, List.filter_append] at ih
    by_cases kept : p a = true
    · rw [whole, List.filter_append, List.filter_cons_of_pos kept, List.filter_cons_of_pos kept]
      symm
      apply mergeSort_cons_of_split trans total ih.symm
      · intro b member
        simpa using above b (List.mem_filter.mp member).1
      · intro b member
        exact descending.2.1.1 b (List.mem_filter.mp member).1
    · rw [whole, List.filter_append, List.filter_cons_of_neg kept, List.filter_cons_of_neg kept, ih]

end Sorting

/-! ### Descending keys -/

section Descending

variable (key : α → Int)

private theorem descending_trans (a b c : α) (first : decide (key b ≤ key a) = true)
    (second : decide (key c ≤ key b) = true) : decide (key c ≤ key a) = true := by
  simp only [decide_eq_true_eq] at first second ⊢
  omega

private theorem descending_total (a b : α) :
    (decide (key b ≤ key a) || decide (key a ≤ key b)) = true := by
  simp only [Bool.or_eq_true, decide_eq_true_eq]
  omega

theorem mergeSort_descending (l : List α) :
    (l.mergeSort fun a b => key b ≤ key a).Pairwise fun a b => key b ≤ key a := by
  have sorted := List.pairwise_mergeSort (descending_trans key) (descending_total key) l
  exact sorted.imp fun below => by simpa using below

theorem filter_mergeSort_descending (p : α → Bool) (l : List α) :
    (l.mergeSort fun a b => key b ≤ key a).filter p =
      (l.filter p).mergeSort fun a b => key b ≤ key a :=
  filter_mergeSort (descending_trans key) (descending_total key) p l

theorem filter_mergeSort_level (value : Int) (l : List α) :
    (l.mergeSort fun a b => key b ≤ key a).filter (fun a => key a = value) =
      l.filter fun a => key a = value := by
  rw [filter_mergeSort_descending]
  apply List.mergeSort_of_pairwise
  apply List.pairwise_of_forall_mem_list
  intro a first b second
  have left : key a = value := by simpa using (List.mem_filter.mp first).2
  have right : key b = value := by simpa using (List.mem_filter.mp second).2
  simp [left, right]

end Descending

end DocRepair
