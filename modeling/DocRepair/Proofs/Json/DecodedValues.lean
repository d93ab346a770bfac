import DocRepair.Json.Reader
import DocRepair.Proofs.Outcome
import Mathlib.Data.List.Nodup

namespace DocRepair

/-! ### Texts among values -/

theorem Datum.isText_iff {value : Datum} {t : Text} : value.isText t = true ↔ value = .text t := by
  cases value with
  | text s => simp [isText]
  | _ => simp [isText]

theorem Datum.bind_text?_eq_some_iff {found : Option Datum} {t : Text} :
    found.bind text? = some t ↔ found = some (.text t) := by
  cases found with
  | none => simp
  | some value => cases value <;> simp [text?]

end DocRepair

namespace DocRepair.Json

open Outcome

/-! ### Values of JSON texts -/

/-- The keys of a mapping are texts, each of them once. -/
def HasNames (entries : List (Datum × Datum)) : Prop :=
  ∃ names : List Text, names.Nodup ∧ entries.map (·.1) = names.map .text

inductive IsJson : Datum → Prop
  | null : IsJson .null
  | bool (b : Bool) : IsJson (.bool b)
  | int (n : Int) : IsJson (.int n)
  | real (x : Binary64) : IsJson (.real x)
  | text (t : Text) : IsJson (.text t)
  | list {items : List Datum} (each : ∀ item ∈ items, IsJson item) : IsJson (.list items)
  | map {entries : List (Datum × Datum)} (names : HasNames entries)
    (each : ∀ entry ∈ entries, IsJson entry.2) : IsJson (.map entries)

/-! ### Entries one after the other -/

variable {entries : List (Datum × Datum)} {key : Text} {value : Datum}

theorem keys_put (names : List Text) (named : entries.map (·.1) = names.map .text) :
    (Datum.put (.text key) value entries).map (·.1) =
      (if key ∈ names then names else names ++ [key]).map .text := by
  induction entries generalizing names with
  | nil =>
    obtain rfl : names = [] := by simpa using named.symm
    rfl
  | cons entry rest ih =>
    cases names with
    | nil => simp at named
    | cons name names =>
      obtain ⟨first, others⟩ : entry.1 = .text name ∧ rest.map (·.1) = names.map .text := by
        simpa using named
      have same : Datum.sameKey entry.1 (.text key) = (name == key) := by
        rw [first]
        rfl
      rw [Datum.put, same]
      by_cases here : name = key
      · subst here
        simp [first, others]
      · have later := ih names others
        by_cases known : key ∈ names
        · simpa [here, known, first] using later
        · simpa [here, known, first, Ne.symm here] using later

theorem HasNames.exists_text (named : HasNames entries) :
    ∀ entry ∈ entries, ∃ name, entry.1 = .text name := by
  obtain ⟨names, -, same⟩ := named
  intro entry member
  obtain ⟨name, -, found⟩ := List.mem_map.mp (same ▸ List.mem_map_of_mem member)
  exact ⟨name, found.symm⟩

theorem HasNames.put (named : HasNames entries) : HasNames (Datum.put (.text key) value entries) := by
  obtain ⟨names, distinct, same⟩ := named
  refine ⟨_, ?_, keys_put names same⟩
  split
  · exact distinct
  · rename_i fresh
    exact List.nodup_append.mpr ⟨distinct, List.nodup_singleton key, fun name member other last =>
      fun same => fresh (by rwa [← List.mem_singleton.mp last, ← same])⟩

theorem mem_put {entry : Datum × Datum} {key : Datum}
    (member : entry ∈ Datum.put key value entries) : entry.2 = value ∨ entry ∈ entries := by
  fun_induction Datum.put key value entries with
  | case1 => exact .inl (by rw [List.mem_singleton.mp member])
  | case2 k v rest same =>
    rcases List.mem_cons.mp member with rfl | later
    · exact .inl rfl
    · exact .inr (List.mem_cons_of_mem _ later)
  | case3 k v rest other ih =>
    rcases List.mem_cons.mp member with rfl | later
    · exact .inr List.mem_cons_self
    · exact (ih later).imp_right (List.mem_cons_of_mem _)

theorem IsJson.put (names : HasNames entries) (each : ∀ entry ∈ entries, IsJson entry.2)
    (inside : IsJson value) : IsJson (.map (Datum.put (.text key) value entries)) := by
  refine .map names.put fun entry member => ?_
  rcases mem_put member with rfl | known
  · exact inside
  · exact each entry known

theorem IsJson.get? {document : Datum} (json : IsJson document)
    (found : document.get? key = some value) : IsJson value := by
  cases json with
  | map names each =>
    obtain ⟨entry, here, rfl⟩ := Option.map_eq_some_iff.mp found
    exact each entry (List.mem_of_find?_eq_some here)
  | _ => cases found

/-! ### Reading -/

theorem isJson_of_words {word : Text} {value : Datum} (member : (word, value) ∈ words) :
    IsJson value := by
  simp only [words, List.mem_cons, Prod.mk.injEq, List.not_mem_nil, or_false] at member
  rcases member with ⟨-, rfl⟩ | ⟨-, rfl⟩ | ⟨-, rfl⟩ | ⟨-, rfl⟩ | ⟨-, rfl⟩ | ⟨-, rfl⟩ <;> constructor

theorem isJson_readNumber {i after : Input} (read : readNumber i = .ok (value, after)) :
    IsJson value := by
  rw [readNumber] at read
  -- The conditions are taken one by one: splitting would open the parts of the number as well.
  obtain ⟨-, refused⟩ | ⟨-, read⟩ := ite_eq_iff.mp read
  · cases refused
  · obtain ⟨-, whole⟩ | ⟨-, broken⟩ := ite_eq_iff.mp read
    · obtain ⟨-, refused⟩ | ⟨-, read⟩ := ite_eq_iff.mp whole
      · cases refused
      · cases read
        exact .int _
    · cases broken
      exact .real _

/-- Reading with fuel gives JSON values, if what has been read before is such. -/
structure ReadsJson (fuel : Nat) : Prop where
  value : ∀ {i value after}, readValue fuel i = .ok (value, after) → IsJson value
  entries : ∀ {entries i value after}, HasNames entries → (∀ entry ∈ entries, IsJson entry.2) →
    readEntries fuel entries i = .ok (value, after) → IsJson value
  items : ∀ {items i value after}, (∀ item ∈ items, IsJson item) →
    readItems fuel items i = .ok (value, after) → IsJson value

section Steps

variable {fuel : Nat} {i after : Input}

theorem ReadsJson.value_succ (ih : ReadsJson fuel)
    (read : readValue (fuel + 1) i = .ok (value, after)) : IsJson value := by
  rw [readValue] at read
  split at read
  · obtain ⟨⟨t, rest⟩, -, last⟩ := bind_eq_ok_iff.mp read
    cases last
    exact .text t
  · split at read
    · simp only at read
      split at read
      · cases read
        exact .map ⟨[], List.nodup_nil, rfl⟩ (by simp)
      · exact ih.entries ⟨[], List.nodup_nil, rfl⟩ (by simp) read
    · split at read
      · simp only at read
        split at read
        · cases read
          exact .list (by simp)
        · exact ih.items (by simp) read
      · split at read
        · rename_i word value found
          cases read
          exact isJson_of_words (List.mem_of_find?_eq_some found)
        · exact isJson_readNumber read

theorem ReadsJson.entries_succ (ih : ReadsJson fuel) (names : HasNames entries)
    (each : ∀ entry ∈ entries, IsJson entry.2)
    (read : readEntries (fuel + 1) entries i = .ok (value, after)) : IsJson value := by
  rw [readEntries] at read
  split at read
  · cases read
  · obtain ⟨⟨key, afterKey⟩, -, read⟩ := bind_eq_ok_iff.mp read
    simp only at read
    split at read
    · cases read
    · obtain ⟨⟨first, afterValue⟩, inside, read⟩ := bind_eq_ok_iff.mp read
      have put : IsJson (.map (Datum.put (.text key) first entries)) :=
        .put names each (ih.value inside)
      simp only at read
      split at read
      · cases read
        exact put
      · split at read
        · cases read
        · cases put with
          | map names each => exact ih.entries names each read

theorem ReadsJson.items_succ (ih : ReadsJson fuel) {items : List Datum}
    (each : ∀ item ∈ items, IsJson item)
    (read : readItems (fuel + 1) items i = .ok (value, after)) : IsJson value := by
  rw [readItems] at read
  obtain ⟨⟨first, afterValue⟩, inside, read⟩ := bind_eq_ok_iff.mp read
  have known : ∀ item ∈ first :: items, IsJson item :=
    List.forall_mem_cons.mpr ⟨ih.value inside, each⟩
  simp only at read
  split at read
  · cases read
    exact .list fun item member => known item (List.mem_reverse.mp member)
  · split at read
    · cases read
    · exact ih.items known read

end Steps

theorem readsJson (fuel : Nat) : ReadsJson fuel := by
  induction fuel with
  | zero =>
    refine ⟨fun read => ?_, fun _ _ read => ?_, fun _ read => ?_⟩
    · rw [readValue] at read
      cases read
    · rw [readEntries] at read
      cases read
    · rw [readItems] at read
      cases read
  | succ fuel ih => exact ⟨ih.value_succ, ih.entries_succ, ih.items_succ⟩

theorem isJson_read {document : Text} (found : read document = .ok value) : IsJson value := by
  rw [read] at found
  split at found
  · cases found
  · obtain ⟨⟨inside, after⟩, here, found⟩ := bind_eq_ok_iff.mp found
    simp only at found
    split at found
    · cases found
      exact (readsJson _).value here
    · cases found

end DocRepair.Json
