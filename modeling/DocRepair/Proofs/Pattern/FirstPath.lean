import DocRepair.Proofs.Pattern.Outline

/-!
Where a pattern does match, and what its groups hold then.

A matcher leads to a place if that is the first place it hands on; it reaches a place if it hands
that on at last. A leading path gives the groups of a match; a reaching one shows that there is a
match.
-/

namespace DocRepair

/-- The place between two parts of a text. -/
def Cursor.between (front rest : Text) (groups : List (Nat × Capture)) : Cursor :=
  ⟨front.length, front.reverse, rest, groups⟩

theorem Cursor.next?_between (front : Text) (c : CodePoint) (rest : Text)
    (groups : List (Nat × Capture)) :
    (between front (c :: rest) groups).next? = some (c, between (front ++ [c]) rest groups) := by
  simp [between, next?]

/-- The groups after a group has captured a text. -/
def Cursor.captured (n : Nat) (front t : Text) (groups : List (Nat × Capture)) :
    List (Nat × Capture) :=
  (n, ⟨front.length, (front ++ t).length, t⟩) :: groups.filter (·.1 != n)

theorem Cursor.group?_captured (n : Nat) (front front' t rest : Text)
    (groups : List (Nat × Capture)) :
    ((between front' rest (captured n front t groups)).group? n).map (·.text) = some t := by
  simp [between, captured, group?]

namespace Matcher

/-- The first place that a matcher hands on. -/
def Leads (m : Matcher) (c d : Cursor) : Prop :=
  ∀ k r, k d = some r → m c k = some r

/-- A place that a matcher hands on if no earlier one will do. -/
def Reaches (m : Matcher) (c d : Cursor) : Prop :=
  ∀ k, (k d).isSome = true → (m c k).isSome = true

theorem Leads.reaches {m : Matcher} {c d : Cursor} (leads : m.Leads c d) : m.Reaches c d := by
  intro k follows
  obtain ⟨r, ends⟩ := Option.isSome_iff_exists.mp follows
  rw [leads k r ends]
  rfl

end Matcher

namespace Pattern

open Matcher Cursor

variable {p q : Pattern} {c d e : Cursor}

/-! ### Sequences, choices, groups -/

theorem run_all_cons (p : Pattern) (rest : List Pattern) :
    (all (p :: rest)).run = (Pattern.seq p (all rest)).run := by
  cases rest <;> rfl

theorem run_all_append (front rest : List Pattern) (c : Cursor) (k : Cursor → Option Cursor) :
    (all (front ++ rest)).run c k = (all front).run c fun d => (all rest).run d k := by
  induction front generalizing c with
  | nil => rfl
  | cons p front ih =>
    rw [List.cons_append, run_all_cons, run_all_cons, run_seq, run_seq]
    simp only [ih]

theorem leads_all_nil (c : Cursor) : (all []).run.Leads c c :=
  fun _ _ ends => ends

theorem leads_all_cons {rest : List Pattern} (first : p.run.Leads c d)
    (second : (all rest).run.Leads d e) : (all (p :: rest)).run.Leads c e := by
  rw [run_all_cons]
  exact fun k r ends => first _ r (second k r ends)

theorem reaches_all_cons {rest : List Pattern} (first : p.run.Reaches c d)
    (second : (all rest).run.Reaches d e) : (all (p :: rest)).run.Reaches c e := by
  rw [run_all_cons]
  exact fun k follows => first _ (second k follows)

theorem leads_alt_left (first : p.run.Leads c d) : (Pattern.alt p q).run.Leads c d := by
  intro k r ends
  simp only [run, first k r ends]

theorem reaches_alt_right (second : q.run.Reaches c d) : (Pattern.alt p q).run.Reaches c d := by
  intro k follows
  simp only [run]
  split
  · rfl
  · exact second k follows

/-- An optional part may be left out, if what follows asks for that. -/
theorem reaches_optional (p : Pattern) (c : Cursor) : (optional p).run.Reaches c c := by
  intro k follows
  simp only [optional, run, rounds, further]
  split
  · exact follows
  · split
    · rfl
    · exact follows

theorem leads_optional (inner : p.run.Leads c d) : (optional p).run.Leads c d := by
  intro k r ends
  have last : ∀ fuel, further p.run .greedy fuel (some 0) d k = some r := by
    intro fuel
    cases fuel <;> simp [further, ends]
  have round := inner (fun d => if d.position = c.position then k d
    else further p.run .greedy c.after.length (some 0) d k) r (by
      simp only [last, ends, ite_self])
  simp only [optional, run, rounds, further]
  simp only [Option.map_some, Nat.sub_self, round]
  rfl

/-! ### Sets and runs of them -/

variable {s : CharSet} {front t rest : Text} {groups : List (Nat × Capture)}

theorem run_set_between (s : CharSet) (front : Text) (x : CodePoint) (rest : Text)
    (groups : List (Nat × Capture)) (k : Cursor → Option Cursor) :
    (Pattern.set s).run (between front (x :: rest) groups) k =
      if s.holds x then k (between (front ++ [x]) rest groups) else none := by
  simp only [run, next?_between]

theorem run_set_stop (stop : ∀ x ∈ rest.head?, s.holds x = false) (k : Cursor → Option Cursor) :
    (Pattern.set s).run (between front rest groups) k = none := by
  cases rest with
  | nil => rfl
  | cons x rest => rw [run_set_between, stop x rfl, if_neg Bool.false_ne_true]

theorem leads_group (n : Nat) {groups' : List (Nat × Capture)}
    (inner : p.run.Leads (between front (t ++ rest) groups) (between (front ++ t) rest groups')) :
    (Pattern.group n p).run.Leads (between front (t ++ rest) groups)
      (between (front ++ t) rest (captured n front t groups')) := by
  intro k r ends
  apply inner
  have text : (t ++ rest).take ((front ++ t).length - front.length) = t := by simp
  rw [close, between, between, text]
  exact ends

theorem leads_sets {sets : List CharSet} (fits : Fits sets t) :
    (all (sets.map .set)).run.Leads (between front (t ++ rest) groups)
      (between (front ++ t) rest groups) := by
  induction fits generalizing front with
  | nil =>
    rw [List.append_nil]
    exact leads_all_nil _
  | @cons s x sets t held fits ih =>
    have first : (Pattern.set s).run.Leads (between front (x :: (t ++ rest)) groups)
        (between (front ++ [x]) (t ++ rest) groups) := by
      intro k r ends
      rw [run_set_between, if_pos held, ends]
    rw [List.append_cons front x t]
    exact leads_all_cons first ih

theorem leads_exactly (t : Text) :
    (exactly t).run.Leads (between front (t ++ rest) groups)
      (between (front ++ t) rest groups) := by
  have sequence : exactly t = all ((exactSets t).map .set) := by
    rw [exactSets, List.map_map]
    rfl
  rw [sequence]
  exact leads_sets (fits_exactSets t)

theorem leads_anyCase {word : Text}
    (same : List.Forall₂ (fun a b => CodePoint.sameLetter a b = true) word t) :
    (anyCase word).run.Leads (between front (t ++ rest) groups)
      (between (front ++ t) rest groups) := by
  have fits : Fits (word.map fun c => ⟨[.one c], false, true⟩) t := by
    rw [Fits, List.forall₂_map_left_iff]
    exact same.imp fun a b letter => by simp [CharSet.holds, SetItem.holdsAnyCase, letter]
  have sequence : anyCase word = all ((word.map fun c => ⟨[.one c], false, true⟩).map .set) := by
    rw [List.map_map]
    rfl
  rw [sequence]
  exact leads_sets fits

theorem leads_anyCase_self (t : Text) :
    (anyCase t).run.Leads (between front (t ++ rest) groups)
      (between (front ++ t) rest groups) :=
  leads_anyCase (List.forall₂_same.mpr fun c _ => by simp [CodePoint.sameLetter])

section Runs

variable (inside : ∀ x ∈ t, s.holds x = true)

include inside

theorem further_set_leads (stop : ∀ x ∈ rest.head?, s.holds x = false) {fuel : Nat}
    (enough : t.length ≤ fuel) :
    (further (Pattern.set s).run .greedy fuel none).Leads (between front (t ++ rest) groups)
      (between (front ++ t) rest groups) := by
  induction t generalizing front fuel with
  | nil =>
    intro k r ends
    rw [List.append_nil] at ends
    cases fuel with
    | zero => exact ends
    | succ fuel => simp [further, run_set_stop stop, ends]
  | cons x t ih =>
    intro k r ends
    obtain ⟨fuel, rfl⟩ : ∃ more, fuel = more + 1 := ⟨fuel - 1, by simp at enough; omega⟩
    rw [List.append_cons front x t] at ends
    have later := ih (fun y member => inside y (by simp [member])) (by simpa using enough) k r ends
    have moved : (between (front ++ [x]) (t ++ rest) groups).position ≠
        (between front (x :: (t ++ rest)) groups).position := by simp [between]
    simp only [further, List.cons_append, run_set_between, inside x (by simp), if_true,
      if_neg moved, Option.map_none, later, reduceCtorEq, if_false]

theorem leads_many (stop : ∀ x ∈ rest.head?, s.holds x = false) :
    (many (.set s)).run.Leads (between front (t ++ rest) groups)
      (between (front ++ t) rest groups) :=
  further_set_leads inside stop (by simp [between]; omega)

theorem leads_many1 (nonempty : t ≠ []) (stop : ∀ x ∈ rest.head?, s.holds x = false) :
    (many1 (.set s)).run.Leads (between front (t ++ rest) groups)
      (between (front ++ t) rest groups) := by
  cases t with
  | nil => exact absurd rfl nonempty
  | cons x t =>
    intro k r ends
    rw [List.append_cons front x t] at ends
    have later := leads_many (fun y member => inside y (by simp [member])) stop k r ends
    rw [many1, run, rounds, List.cons_append, run_set_between, if_pos (inside x (by simp))]
    exact later

theorem further_set_reaches {fuel : Nat} (enough : t.length ≤ fuel) :
    (further (Pattern.set s).run .greedy fuel none).Reaches (between front (t ++ rest) groups)
      (between (front ++ t) rest groups) := by
  induction t generalizing front fuel with
  | nil =>
    intro k follows
    rw [List.append_nil] at follows
    cases fuel with
    | zero => exact follows
    | succ fuel =>
      simp only [further, reduceCtorEq, if_false]
      split
      · rfl
      · exact follows
  | cons x t ih =>
    intro k follows
    obtain ⟨fuel, rfl⟩ : ∃ more, fuel = more + 1 := ⟨fuel - 1, by simp at enough; omega⟩
    rw [List.append_cons front x t] at follows
    have later := ih (fun y member => inside y (by simp [member])) (by simpa using enough) k follows
    have moved : (between (front ++ [x]) (t ++ rest) groups).position ≠
        (between front (x :: (t ++ rest)) groups).position := by simp [between]
    simp only [further, List.cons_append, run_set_between, inside x (by simp), if_true,
      if_neg moved, Option.map_none, reduceCtorEq, if_false]
    split
    · rfl
    · rename_i none
      rw [none] at later
      cases later

/-- A run can end anywhere in it, if what follows asks for that. -/
theorem reaches_many : (many (.set s)).run.Reaches (between front (t ++ rest) groups)
    (between (front ++ t) rest groups) :=
  further_set_reaches inside (by simp [between]; omega)

end Runs

theorem leads_many_nil (stop : ∀ x ∈ rest.head?, s.holds x = false) :
    (many (.set s)).run.Leads (between front rest groups) (between front rest groups) := by
  have leads : (many (.set s)).run.Leads (between front ([] ++ rest) groups)
      (between (front ++ []) rest groups) := leads_many (by simp) stop
  rwa [List.append_nil] at leads

theorem leads_notBehind {x : CodePoint} (other : s.holds x = false) :
    (Pattern.behind false 1 (.set s)).run.Leads (between (front ++ [x]) rest groups)
      (between (front ++ [x]) rest groups) := by
  intro k r ends
  simp [run, between, back?, next?, other] at ends ⊢
  exact ends

/-! ### Searching -/

theorem searchFrom_of_match {position : Nat} {before after : Text} {m : Match}
    (found : p.matchFrom? ⟨position, before, after, []⟩ = some m) :
    p.searchFrom position before after = some m := by
  cases after with
  | nil => exact found
  | cons x rest => rw [searchFrom, found]

/-- A pattern occurs in a subject if it matches at some place of it. -/
theorem occursIn_iff {subject : Text} : p.occursIn subject = true ↔
    ∃ front rest, subject = front ++ rest ∧ (p.run (between front rest []) some).isSome = true := by
  have here : ∀ front rest : Text, (p.matchFrom? (between front rest [])).isSome =
      (p.run (between front rest []) some).isSome := by
    intro front rest
    rw [matchFrom?, Option.isSome_map]
  -- The search has passed over `front` and goes on in `rest`.
  have search : ∀ rest front : Text,
      (p.searchFrom front.length front.reverse rest).isSome = true ↔
        ∃ more left, rest = more ++ left ∧
          (p.run (between (front ++ more) left []) some).isSome = true := by
    intro rest
    induction rest with
    | nil =>
      intro front
      constructor
      · intro found
        exact ⟨[], [], rfl, by rw [List.append_nil, ← here]; exact found⟩
      · rintro ⟨more, left, split, found⟩
        obtain ⟨rfl, rfl⟩ := List.nil_eq_append_iff.mp split
        rw [List.append_nil, ← here] at found
        exact found
    | cons x rest ih =>
      intro front
      have step : (p.searchFrom front.length front.reverse (x :: rest)).isSome = true ↔
          (p.run (between front (x :: rest) []) some).isSome = true ∨
            (p.searchFrom (front ++ [x]).length (front ++ [x]).reverse rest).isSome = true := by
        have cursor : (⟨front.length, front.reverse, x :: rest, []⟩ : Cursor) =
            between front (x :: rest) [] := rfl
        rw [← here, searchFrom, List.length_append, List.reverse_append, cursor]
        cases p.matchFrom? (between front (x :: rest) []) with
        | some m => simp
        | none => simp
      rw [step, ih]
      constructor
      · rintro (first | ⟨more, left, rfl, later⟩)
        · exact ⟨[], x :: rest, rfl, by rwa [List.append_nil]⟩
        · exact ⟨x :: more, left, rfl, by rwa [List.append_cons]⟩
      · rintro ⟨more, left, split, found⟩
        cases more with
        | nil =>
          obtain rfl : x :: rest = left := split
          exact .inl (by rwa [List.append_nil] at found)
        | cons y more =>
          obtain ⟨rfl, rfl⟩ := List.cons.inj split
          exact .inr ⟨more, left, rfl, by rwa [List.append_cons] at found⟩
  exact search subject []

theorem exactly_within (t : Text) : (exactly t).run.Within fun c e => c.after = t ++ e.after := by
  induction t with
  | nil => exact fun c k d found => ⟨c, rfl, found⟩
  | cons x t ih =>
    intro c k d found
    rw [exactly, List.map_cons, run_all_cons] at found
    obtain ⟨y, rest, here, held, later⟩ := run_set_cases found
    obtain rfl : x = y := by simpa [CharSet.holds, SetItem.holds] using held
    obtain ⟨e, there, last⟩ := ih _ k d later
    have whole : c.after = x :: t ++ e.after := by
      rw [here, show rest = t ++ e.after from there, List.cons_append]
    exact ⟨e, whole, last⟩

/-- A text that stands for itself is found in the texts that hold it. -/
theorem occursIn_exactly_iff {subject : Text} :
    (exactly t).occursIn subject = true ↔ t <:+: subject := by
  rw [occursIn_iff]
  constructor
  · rintro ⟨front, rest, rfl, found⟩
    obtain ⟨d, found⟩ := Option.isSome_iff_exists.mp found
    obtain ⟨e, here, -⟩ := exactly_within t _ _ d found
    refine ⟨front, e.after, ?_⟩
    rw [show rest = t ++ e.after from here, List.append_assoc]
  · rintro ⟨front, rest, rfl⟩
    exact ⟨front, t ++ rest, List.append_assoc .., (leads_exactly t).reaches some rfl⟩

theorem occursIn_of_reaches (reaches : p.run.Reaches (between front rest []) d) :
    p.occursIn (front ++ rest) = true :=
  occursIn_iff.mpr ⟨front, rest, rfl, reaches some rfl⟩

theorem occursIn_of_reaches_start (reaches : p.run.Reaches (between [] rest []) d) :
    p.occursIn rest = true := by
  rw [← List.nil_append rest]
  exact occursIn_of_reaches reaches

/-- The first path from a place captures a text. -/
def Captures (p : Pattern) (n : Nat) (c : Cursor) (t : Text) : Prop :=
  ∃ d, p.run.Leads c d ∧ (d.group? n).map (·.text) = some t

theorem Captures.matchFrom? {n : Nat} (captures : p.Captures n (between front rest []) t) :
    ∃ m, p.matchFrom? (between front rest []) = some m ∧ m.group? n = some t := by
  obtain ⟨d, leads, captured⟩ := captures
  refine ⟨⟨front.length, d.position, d.after, d.groups⟩, ?_, captured⟩
  rw [Pattern.matchFrom?, leads some d rfl]
  rfl

/-- The first match starts behind a front part in which the outline lets none start, and it goes the
first path from there. -/
theorem find?_of_captures {k : GapClass} {o o' : Outline} {n : Nat}
    (first : o.Describes k front) (second : o'.Describes k rest)
    (excluded : o.mayStart k.meets o' p.lead.sets = false)
    (captures : p.Captures n (between front rest []) t) : p.find? n (front ++ rest) = some t := by
  obtain ⟨m, found, captured⟩ := captures.matchFrom?
  rw [find?, search?_append first second excluded, searchFrom_of_match found]
  exact captured

theorem find?_of_captures_start {n : Nat} (captures : p.Captures n (between [] rest []) t) :
    p.find? n rest = some t := by
  obtain ⟨m, found, captured⟩ := captures.matchFrom?
  have searched : p.searchFrom 0 [] rest = some m := searchFrom_of_match found
  rw [find?, search?, searched]
  exact captured

end Pattern

end DocRepair
