import DocRepair.OrderedMap
import Mathlib.Data.List.Nodup

namespace DocRepair.OrderedMap

variable {α β : Type} [DecidableEq α]

/-- Adds values to the lists of their keys, one after the other. -/
def pushAll (map : OrderedMap α (List β)) (pairs : List (α × β)) : OrderedMap α (List β) :=
  pairs.foldl (fun grouped pair => grouped.push pair.1 pair.2) map

/-- Keys with those of a list that are new, in order of first appearance. -/
def withNew (known : List α) (more : List α) : List α :=
  more.foldl (fun seen key => if key ∈ seen then seen else seen ++ [key]) known

theorem keys_modify (key : α) (change : Option β → β) (map : OrderedMap α β) :
    (modify key change map).keys = if key ∈ map.keys then map.keys else map.keys ++ [key] := by
  induction map with
  | nil => simp [modify, keys]
  | cons entry rest ih =>
    obtain ⟨k, v⟩ := entry
    by_cases same : k = key
    · simp [modify, keys, same]
    · simp only [modify, same, ↓reduceIte, keys, List.map_cons, List.mem_cons,
        Ne.symm same, false_or] at ih ⊢
      rw [ih]
      by_cases later : key ∈ rest.map (·.1) <;> simp [later]

theorem get?_modify (key other : α) (change : Option β → β) (map : OrderedMap α β) :
    (modify key change map).get? other =
      if other = key then some (change (map.get? key)) else map.get? other := by
  induction map with
  | nil =>
    by_cases same : other = key
    · simp [modify, get?, same]
    · simp [modify, get?, same, Ne.symm same]
  | cons entry rest ih =>
    obtain ⟨k, v⟩ := entry
    by_cases here : k = key
    · by_cases same : other = key
      · simp [modify, get?, here, same]
      · simp [modify, get?, here, same, Ne.symm same]
    · by_cases there : k = other
      · have differs : other ≠ key := there ▸ here
        simp [modify, get?, there, differs]
      · simpa [modify, get?, here, there] using ih

theorem listOf_push (map : OrderedMap α (List β)) (key other : α) (value : β) :
    (map.push key value).listOf other =
      if other = key then map.listOf key ++ [value] else map.listOf other := by
  rw [listOf, push, get?_modify]
  split <;> rfl

theorem keys_pushAll (map : OrderedMap α (List β)) (pairs : List (α × β)) :
    (map.pushAll pairs).keys = withNew map.keys (pairs.map (·.1)) := by
  induction pairs generalizing map with
  | nil => rfl
  | cons pair rest ih =>
    rw [pushAll, List.foldl_cons, ← pushAll, ih, push, keys_modify]
    rfl

/-- A key collects the values that come with it, in order. -/
theorem listOf_pushAll (map : OrderedMap α (List β)) (pairs : List (α × β)) (key : α) :
    (map.pushAll pairs).listOf key =
      map.listOf key ++ (pairs.filter fun pair => pair.1 = key).map (·.2) := by
  induction pairs generalizing map with
  | nil => simp [pushAll]
  | cons pair rest ih =>
    rw [pushAll, List.foldl_cons, ← pushAll, ih, listOf_push]
    by_cases same : pair.1 = key
    · simp [same]
    · simp [same, Ne.symm same]

/-- New keys come after the known ones; each is new and stands in the list. -/
theorem withNew_eq_append (known more : List α) :
    ∃ fresh, withNew known more = known ++ fresh ∧ ∀ key ∈ fresh, key ∉ known ∧ key ∈ more := by
  induction more generalizing known with
  | nil => exact ⟨[], by simp [withNew], by simp⟩
  | cons key rest ih =>
    by_cases seen : key ∈ known
    · obtain ⟨fresh, same, new⟩ := ih known
      refine ⟨fresh, by simpa [withNew, seen] using same, ?_⟩
      intro other member
      exact ⟨(new other member).1, List.mem_cons_of_mem _ (new other member).2⟩
    · obtain ⟨fresh, same, new⟩ := ih (known ++ [key])
      refine ⟨key :: fresh, by simpa [withNew, seen] using same, ?_⟩
      intro other member
      rcases List.mem_cons.mp member with here | later
      · simp [here, seen]
      · obtain ⟨absent, present⟩ := new other later
        exact ⟨fun old => absent (List.mem_append_left _ old), List.mem_cons_of_mem _ present⟩

theorem withNew_nodup {known : List α} (more : List α) (unique : known.Nodup) :
    (withNew known more).Nodup := by
  induction more generalizing known with
  | nil => exact unique
  | cons key rest ih =>
    by_cases seen : key ∈ known
    · simpa [withNew, seen] using ih unique
    · have extended : (known ++ [key]).Nodup := by
        simp only [List.nodup_append, unique, List.nodup_singleton, true_and, List.mem_singleton]
        rintro other member _ rfl same
        exact seen (same ▸ member)
      simpa [withNew, seen] using ih extended

theorem mem_withNew (known more : List α) (key : α) :
    key ∈ withNew known more ↔ key ∈ known ∨ key ∈ more := by
  induction more generalizing known with
  | nil => simp [withNew]
  | cons first rest ih =>
    rw [withNew, List.foldl_cons, ← withNew, ih]
    by_cases seen : first ∈ known
    · rw [if_pos seen, List.mem_cons]
      constructor
      · rintro (old | later)
        · exact .inl old
        · exact .inr (.inr later)
      · rintro (old | rfl | later)
        · exact .inl old
        · exact .inl seen
        · exact .inr later
    · rw [if_neg seen, List.mem_append, List.mem_singleton, List.mem_cons, or_assoc]

theorem withNew_of_subset {known more : List α} (seen : ∀ key ∈ more, key ∈ known) :
    withNew known more = known := by
  induction more with
  | nil => rfl
  | cons key rest ih =>
    have here := seen key (by simp)
    have later := ih fun other member => seen other (List.mem_cons_of_mem _ member)
    simpa [withNew, here] using later

theorem withNew_append (known more others : List α) :
    withNew known (more ++ others) = withNew (withNew known more) others := by
  simp [withNew, List.foldl_append]

/-- Gives keys their values, one after the other. -/
def putAll (map : OrderedMap α β) (pairs : List (α × β)) : OrderedMap α β :=
  pairs.foldl (fun known pair => known.put pair.1 pair.2) map

theorem ofPairs_eq_putAll (pairs : List (α × β)) : ofPairs pairs = putAll [] pairs :=
  rfl

theorem keys_putAll (map : OrderedMap α β) (pairs : List (α × β)) :
    (map.putAll pairs).keys = withNew map.keys (pairs.map (·.1)) := by
  induction pairs generalizing map with
  | nil => rfl
  | cons pair rest ih =>
    rw [putAll, List.foldl_cons, ← putAll, ih, put, keys_modify]
    rfl

theorem keys_ofPairs_nodup (pairs : List (α × β)) : (ofPairs pairs).keys.Nodup := by
  rw [ofPairs_eq_putAll, keys_putAll]
  exact withNew_nodup _ List.nodup_nil

theorem put_of_not_mem {map : OrderedMap α β} {key : α} (value : β) (absent : key ∉ map.keys) :
    map.put key value = map ++ [(key, value)] := by
  induction map with
  | nil => rfl
  | cons entry rest ih =>
    obtain ⟨other, later⟩ : key ≠ entry.1 ∧ key ∉ keys rest := by
      simpa [keys] using absent
    rw [put, modify, if_neg (Ne.symm other), List.cons_append]
    exact congrArg (entry :: ·) (ih later)

theorem ofPairs_of_nodup {pairs : List (α × β)} (unique : (pairs.map (·.1)).Nodup) :
    ofPairs pairs = pairs := by
  have further : ∀ map : OrderedMap α β, (map.keys ++ pairs.map (·.1)).Nodup →
      map.putAll pairs = map ++ pairs := by
    clear unique
    induction pairs with
    | nil => exact fun map _ => (List.append_nil map).symm
    | cons pair rest ih =>
      intro map distinct
      have absent : pair.1 ∉ map.keys := fun member =>
        (List.nodup_append.mp distinct).2.2 pair.1 member pair.1 (by simp) rfl
      rw [putAll, List.foldl_cons, put_of_not_mem pair.2 absent, ← putAll,
        ih _ (by simpa [keys] using distinct), List.append_assoc, List.singleton_append]
  rw [ofPairs_eq_putAll, further [] unique, List.nil_append]

theorem mem_of_listOf_ne_nil {map : OrderedMap α (List β)} {key : α}
    (nonempty : map.listOf key ≠ []) : (key, map.listOf key) ∈ map := by
  cases found : map.find? fun entry => decide (entry.1 = key) with
  | none => simp [listOf, get?, found] at nonempty
  | some entry =>
    have same : entry.1 = key := by simpa using List.find?_some found
    have member := List.mem_of_find?_eq_some found
    have list : map.listOf key = entry.2 := by simp [listOf, get?, found]
    rw [list, ← same]
    exact member

theorem mem_keys_of_listOf_ne_nil {map : OrderedMap α (List β)} {key : α}
    (nonempty : map.listOf key ≠ []) : key ∈ map.keys :=
  List.mem_map.mpr ⟨_, mem_of_listOf_ne_nil nonempty, rfl⟩

theorem listOf_of_mem {map : OrderedMap α (List β)} (unique : map.keys.Nodup) {key : α}
    (values : List β) (member : (key, values) ∈ map) : map.listOf key = values := by
  induction map with
  | nil => simp at member
  | cons entry rest ih =>
    obtain ⟨absent, others⟩ := List.nodup_cons.mp unique
    by_cases here : entry.1 = key
    · rcases List.mem_cons.mp member with same | later
      · simp [listOf, get?, ← same]
      · exact absurd (List.mem_map.mpr ⟨_, later, here.symm⟩) absent
    · rcases List.mem_cons.mp member with same | later
      · exact absurd (by simp [← same]) here
      · simpa [listOf, get?, here] using ih others later

/-- A mapping with distinct keys is the list of its keys with their values. -/
theorem eq_map_listOf {map : OrderedMap α (List β)} (unique : map.keys.Nodup) :
    map = map.keys.map fun key => (key, map.listOf key) := by
  rw [keys, List.map_map]
  conv_lhs => rw [← List.map_id map]
  apply List.map_congr_left
  intro entry member
  simp [listOf_of_mem unique entry.2 member]

theorem ext {map other : OrderedMap α (List β)} (unique : map.keys.Nodup)
    (same : map.keys = other.keys) (values : ∀ key, map.listOf key = other.listOf key) :
    map = other := by
  calc map = map.keys.map fun key => (key, map.listOf key) := eq_map_listOf unique
    _ = other.keys.map fun key => (key, other.listOf key) := by simp only [same, values]
    _ = other := (eq_map_listOf (same ▸ unique)).symm

/-- Among the pairs of distinct keys with their values, those of one key are its values. -/
theorem filter_pairs {order : List α} (unique : order.Nodup) (values : α → List β) (key : α) :
    (order.flatMap fun k => (values k).map (k, ·)).filter (fun pair => pair.1 = key) =
      if key ∈ order then (values key).map (key, ·) else [] := by
  induction order with
  | nil => rfl
  | cons first rest ih =>
    obtain ⟨absent, others⟩ := List.nodup_cons.mp unique
    rw [List.flatMap_cons, List.filter_append, ih others]
    by_cases here : first = key
    · subst here
      have all : ((values first).map (first, ·)).filter (fun pair => pair.1 = first) =
          (values first).map (first, ·) := by
        apply List.filter_eq_self.mpr
        simp
      rw [all, if_neg absent, if_pos (by simp), List.append_nil]
    · have none : ((values first).map (first, ·)).filter (fun pair => pair.1 = key) = [] := by
        apply List.filter_eq_nil_iff.mpr
        simp [here]
      simp [none, Ne.symm here]

/-- New keys come in order, however often each of them is repeated; keys that are repeated not at
all do not come. -/
theorem withNew_flatMap {known fresh : List α} (values : α → List β)
    (disjoint : (known ++ fresh).Nodup) :
    withNew known (fresh.flatMap fun key => (values key).map fun _ => key) =
      known ++ fresh.filter fun key => !(values key).isEmpty := by
  induction fresh generalizing known with
  | nil => simp [withNew]
  | cons key rest ih =>
    rw [List.flatMap_cons, withNew_append]
    by_cases empty : values key = []
    · have others : (known ++ rest).Nodup :=
        disjoint.sublist (List.sublist_cons_self key rest |>.append_left known)
      have none : withNew known [] = known := rfl
      rw [empty, List.map_nil, none, ih others]
      simp [empty]
    · obtain ⟨first, more, found⟩ := List.exists_cons_of_ne_nil empty
      have absent : key ∉ known := by
        intro member
        exact (List.nodup_append.mp disjoint).2.2 key member key (by simp) rfl
      have once : withNew known ((values key).map fun _ => key) = known ++ [key] := by
        have again : withNew (known ++ [key]) (more.map fun _ => key) = known ++ [key] :=
          withNew_of_subset (by simp)
        rw [found, List.map_cons]
        simpa [withNew, absent] using again
      rw [once, ih (by simpa using disjoint)]
      simp [empty]

end DocRepair.OrderedMap
