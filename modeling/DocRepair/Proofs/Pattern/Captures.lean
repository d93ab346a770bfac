import DocRepair.Issue.Message

/-!
What the groups of a pattern can capture.

A matcher hands places on to what follows. What holds between a place and all places handed on from
it is carried through sequences, choices and repetitions, up to the end of a match.
-/

namespace DocRepair

/-- Only places in a relation to the start are handed on. -/
def Matcher.Within (relation : Cursor → Cursor → Prop) (m : Matcher) : Prop :=
  ∀ c k d, m c k = some d → ∃ e, relation c e ∧ k e = some d

theorem Matcher.Within.ends {relation : Cursor → Cursor → Prop} {m : Matcher}
    (within : m.Within relation) {c e : Cursor} (found : m c some = some e) : relation c e := by
  obtain ⟨_, related, last⟩ := within c some e found
  cases last
  exact related

/-- A relation that repetitions carry on. -/
structure Carried (relation : Cursor → Cursor → Prop) : Prop where
  refl : ∀ c, relation c c
  trans : ∀ {c d e}, relation c d → relation d e → relation c e

namespace Matcher

variable {relation : Cursor → Cursor → Prop} (carried : Carried relation) {body : Matcher}
  (within : body.Within relation)

include carried within

theorem further_within (appetite : Appetite) (fuel : Nat) (most : Option Nat) :
    (further body appetite fuel most).Within relation := by
  induction fuel generalizing most with
  | zero =>
    intro c k d found
    exact ⟨c, carried.refl c, found⟩
  | succ fuel ih =>
    intro c k d found
    have stay : k c = some d → ∃ e, relation c e ∧ k e = some d :=
      fun last => ⟨c, carried.refl c, last⟩
    have another : (body c fun d => if d.position = c.position then k d
        else further body appetite fuel (most.map (· - 1)) d k) = some d →
        ∃ e, relation c e ∧ k e = some d := by
      intro round
      obtain ⟨e, here, rest⟩ := within c _ d round
      split at rest
      · exact ⟨e, here, rest⟩
      · obtain ⟨f, later, last⟩ := ih _ e k d rest
        exact ⟨f, carried.trans here later, last⟩
    simp only [further] at found
    split at found
    · exact stay found
    · cases appetite with
      | greedy =>
        simp only at found
        split at found
        · rename_i round
          exact another (by rw [round, found])
        · exact stay found
      | lazy =>
        simp only at found
        split at found
        · rename_i last
          exact stay (by rw [last, found])
        · exact another found

theorem rounds_within (appetite : Appetite) (least : Nat) (most : Option Nat) :
    (rounds body appetite least most).Within relation := by
  induction least generalizing most with
  | zero =>
    intro c k d found
    exact further_within carried within appetite _ most c k d found
  | succ least ih =>
    intro c k d found
    obtain ⟨e, here, rest⟩ := within c _ d found
    obtain ⟨f, later, last⟩ := ih _ e k d rest
    exact ⟨f, carried.trans here later, last⟩

end Matcher

/-! ### What a pattern can do

A match of each kind of pattern comes from matches of its parts, or from a look at the subject. -/

namespace Pattern

variable {p q : Pattern} {c d : Cursor} {k : Cursor → Option Cursor}

theorem run_set_cases {s : CharSet} (found : (Pattern.set s).run c k = some d) :
    ∃ x rest, c.after = x :: rest ∧ s.holds x = true ∧
      k ⟨c.position + 1, x :: c.before, rest, c.groups⟩ = some d := by
  simp only [run, Cursor.next?] at found
  cases after : c.after with
  | nil => simp [after] at found
  | cons x rest =>
    simp only [after] at found
    split at found
    · exact ⟨x, rest, rfl, ‹_›, found⟩
    · cases found

theorem run_alt_cases (found : (Pattern.alt p q).run c k = some d) :
    p.run c k = some d ∨ q.run c k = some d := by
  simp only [run] at found
  split at found
  · rename_i left
    exact .inl (left.trans found)
  · exact .inr found

theorem run_again_cases {n : Nat} {likeness : Likeness}
    (found : (Pattern.again n likeness).run c k = some d) :
    ∃ same t e, c.expect? same t = some e ∧ k e = some d := by
  simp only [run] at found
  split at found
  · split at found
    · exact ⟨_, _, _, ‹_›, found⟩
    · cases found
  · cases found

theorem run_ahead_cases {wanted : Bool} (found : (Pattern.ahead wanted p).run c k = some d) :
    k c = some d ∨ ∃ e, p.run c some = some e ∧ k { c with groups := e.groups } = some d := by
  simp only [run] at found
  split at found
  · split at found
    · exact .inr ⟨_, ‹_›, found⟩
    · cases found
  · split at found
    · cases found
    · exact .inl found

theorem run_behind_cases {wanted : Bool} {width : Nat}
    (found : (Pattern.behind wanted width p).run c k = some d) :
    k c = some d ∨ ∃ b e, c.back? width = some b ∧ p.run b some = some e ∧
      k { c with groups := e.groups } = some d := by
  simp only [run] at found
  split at found
  · rename_i e inner
    obtain ⟨b, back, inner⟩ := Option.bind_eq_some_iff.mp inner
    split at found
    · exact .inr ⟨b, e, back, inner, found⟩
    · cases found
  · split at found
    · cases found
    · exact .inl found

theorem run_atomic_cases (found : (Pattern.atomic p).run c k = some d) :
    ∃ e, p.run c some = some e ∧ k e = some d := by
  simp only [run] at found
  split at found
  · exact ⟨_, ‹_›, found⟩
  · cases found

theorem run_given_cases {n : Nat} (found : (Pattern.given n p q).run c k = some d) :
    p.run c k = some d ∨ q.run c k = some d := by
  simp only [run] at found
  split at found
  · exact .inl found
  · exact .inr found

theorem run_anchor_cases {a : Anchor} (found : (Pattern.anchor a).run c k = some d) :
    k c = some d := by
  simp only [run] at found
  split at found
  · exact found
  · cases found

end Pattern

/-! ### Runs of code points of a set -/

/-- Between two places stand only code points of a set. -/
def Cursor.Consumes (s : CharSet) (c e : Cursor) : Prop :=
  ∃ t : Text, (∀ d ∈ t, s.holds d = true) ∧ c.after = t ++ e.after ∧
    e.position = c.position + t.length ∧ e.groups = c.groups

theorem Cursor.carried_consumes (s : CharSet) : Carried (Consumes s) where
  refl c := ⟨[], by simp, rfl, rfl, rfl⟩
  trans := by
    rintro c d e ⟨t, inside, after, position, groups⟩ ⟨u, inside', after', position', groups'⟩
    refine ⟨t ++ u, ?_, by rw [after, after', List.append_assoc], ?_, groups'.trans groups⟩
    · intro x member
      rcases List.mem_append.mp member with first | second
      · exact inside x first
      · exact inside' x second
    · rw [position', position, List.length_append, Nat.add_assoc]

theorem Pattern.set_within (s : CharSet) : (Pattern.set s).run.Within (Cursor.Consumes s) := by
  intro c k d found
  obtain ⟨x, rest, after, held, last⟩ := run_set_cases found
  refine ⟨⟨c.position + 1, x :: c.before, rest, c.groups⟩, ?_, last⟩
  exact ⟨[x], by simpa using held, after, rfl, rfl⟩

/-! ### Captures -/

/-- What a group has captured so far is made of code points of a set, at least one. -/
def Cursor.CapturesIn (n : Nat) (s : CharSet) (c : Cursor) : Prop :=
  ∀ entry ∈ c.groups, entry.1 = n → entry.2.text ≠ [] ∧ ∀ d ∈ entry.2.text, s.holds d = true

/-- Going on does not spoil the captures. -/
def Cursor.KeepsCaptures (n : Nat) (s : CharSet) (c e : Cursor) : Prop :=
  c.CapturesIn n s → e.CapturesIn n s

theorem Cursor.carried_keepsCaptures (n : Nat) (s : CharSet) : Carried (KeepsCaptures n s) where
  refl _ := id
  trans first second := second ∘ first

/-- Whether a pattern repeats a set at least once. -/
def Pattern.isRunOf (s : CharSet) : Pattern → Bool
  | .rep (_ + 1) _ _ (.set inner) => inner = s
  | _ => false

/-- Whether every group of a number repeats a set at least once. -/
def Pattern.groupsIn (n : Nat) (s : CharSet) : Pattern → Bool
  | .empty | .set _ | .again _ _ | .anchor _ => true
  | .seq p q | .alt p q | .given _ p q => p.groupsIn n s && q.groupsIn n s
  | .rep _ _ _ p | .ahead _ p | .behind _ _ p | .atomic p => p.groupsIn n s
  | .group m p => if m = n then p.isRunOf s else p.groupsIn n s

theorem Cursor.close_keepsCaptures {s : CharSet} {c e : Cursor} (n : Nat)
    (consumed : c.Consumes s e) (moved : e.position ≠ c.position) :
    c.KeepsCaptures n s (Cursor.close n c e) := by
  obtain ⟨t, inside, after, position, groups⟩ := consumed
  have nonempty : t ≠ [] := by
    rintro rfl
    exact moved position
  have captured : c.after.take (e.position - c.position) = t := by
    rw [position, after, Nat.add_sub_cancel_left, List.take_left]
  intro before entry member
  simp only [Cursor.close, captured, groups, List.mem_cons, List.mem_filter] at member
  rcases member with rfl | ⟨earlier, _⟩
  · exact fun _ => ⟨nonempty, inside⟩
  · exact before entry earlier

theorem Cursor.close_other {s : CharSet} {c e opened : Cursor} {m n : Nat} (other : m ≠ n)
    (kept : c.KeepsCaptures n s e) : c.KeepsCaptures n s (Cursor.close m opened e) := by
  intro before entry member own
  simp only [Cursor.close, List.mem_cons, List.mem_filter] at member
  rcases member with rfl | ⟨earlier, _⟩
  · exact absurd own other
  · exact kept before entry earlier own

theorem Pattern.group_within {s : CharSet} (n : Nat) {p : Pattern} (run : p.isRunOf s = true) :
    (Pattern.group n p).run.Within (Cursor.KeepsCaptures n s) := by
  obtain ⟨least, most, appetite, rfl⟩ :
      ∃ least most appetite, p = .rep (least + 1) most appetite (.set s) := by
    unfold isRunOf at run
    split at run
    · rename_i least most appetite inner
      exact ⟨least, most, appetite, by rw [of_decide_eq_true run]⟩
    · cases run
  have carried := Cursor.carried_consumes s
  intro c k d found
  -- The first round moves on, and no later one goes back.
  obtain ⟨x, tail, after, held, found⟩ := run_set_cases found
  obtain ⟨e, consumed, rest⟩ := Matcher.rounds_within carried (set_within s) appetite least
    (most.map (· - 1)) _ _ d found
  have first : c.Consumes s ⟨c.position + 1, x :: c.before, tail, c.groups⟩ :=
    ⟨[x], by simpa using held, after, rfl, rfl⟩
  have moved : e.position ≠ c.position := by
    obtain ⟨_, _, _, position, _⟩ := consumed
    simp only at position
    omega
  exact ⟨_, Cursor.close_keepsCaptures n (carried.trans first consumed) moved, rest⟩

theorem Cursor.groups_expect? {same : CodePoint → CodePoint → Bool} {t : Text} {c e : Cursor}
    (expected : expect? same t c = some e) : e.groups = c.groups := by
  induction t generalizing c with
  | nil => cases expected; rfl
  | cons d rest ih =>
    simp only [expect?, next?] at expected
    cases after : c.after with
    | nil => simp [after] at expected
    | cons x more =>
      simp only [after] at expected
      split at expected
      · have later := ih expected
        exact later
      · cases expected

theorem Cursor.groups_back? {c b : Cursor} {width : Nat} (back : c.back? width = some b) :
    b.groups = c.groups := by
  rw [back?] at back
  split at back
  · cases back
    rfl
  · cases back

/-- Along a match every capture of the group is made of code points of the set, at least one. -/
theorem Pattern.run_within {n : Nat} {s : CharSet} (p : Pattern) (grouped : p.groupsIn n s = true) :
    p.run.Within (Cursor.KeepsCaptures n s) := by
  have keep := Cursor.carried_keepsCaptures n s
  have same : ∀ {c e : Cursor}, e.groups = c.groups → c.KeepsCaptures n s e := by
    intro c e groups
    simp [Cursor.KeepsCaptures, Cursor.CapturesIn, groups]
  induction p with
  | empty => exact fun c k d found => ⟨c, keep.refl c, found⟩
  | set inner =>
    intro c k d found
    obtain ⟨e, ⟨_, _, _, _, groups⟩, rest⟩ := set_within inner c k d found
    exact ⟨e, same groups, rest⟩
  | seq p q first second =>
    rw [groupsIn, Bool.and_eq_true] at grouped
    intro c k d found
    obtain ⟨e, here, rest⟩ := first grouped.1 c _ d found
    obtain ⟨f, later, last⟩ := second grouped.2 e k d rest
    exact ⟨f, keep.trans here later, last⟩
  | alt p q first second =>
    rw [groupsIn, Bool.and_eq_true] at grouped
    intro c k d found
    exact (run_alt_cases found).elim (first grouped.1 c k d) (second grouped.2 c k d)
  | rep least most appetite p ih =>
    exact Matcher.rounds_within keep (ih grouped) appetite least most
  | group m p ih =>
    rw [groupsIn] at grouped
    split at grouped
    · rename_i own
      exact own ▸ group_within m grouped
    · rename_i other
      intro c k d found
      obtain ⟨e, here, rest⟩ := ih grouped c _ d found
      exact ⟨_, Cursor.close_other other here, rest⟩
  | again n likeness =>
    intro c k d found
    obtain ⟨_, _, e, expected, last⟩ := run_again_cases found
    exact ⟨e, same (Cursor.groups_expect? expected), last⟩
  | ahead wanted p ih =>
    intro c k d found
    rcases run_ahead_cases found with here | ⟨e, inner, last⟩
    · exact ⟨c, keep.refl c, here⟩
    · have kept := (ih grouped).ends inner
      exact ⟨{ c with groups := e.groups }, kept, last⟩
  | behind wanted width p ih =>
    intro c k d found
    rcases run_behind_cases found with here | ⟨b, e, back, inner, last⟩
    · exact ⟨c, keep.refl c, here⟩
    · have kept := keep.trans (same (Cursor.groups_back? back)) ((ih grouped).ends inner)
      exact ⟨{ c with groups := e.groups }, kept, last⟩
  | atomic p ih =>
    intro c k d found
    obtain ⟨e, inner, last⟩ := run_atomic_cases found
    exact ⟨e, (ih grouped).ends inner, last⟩
  | given n yes no first second =>
    rw [groupsIn, Bool.and_eq_true] at grouped
    intro c k d found
    exact (run_given_cases found).elim (first grouped.1 c k d) (second grouped.2 c k d)
  | anchor a => exact fun c k d found => ⟨c, keep.refl c, run_anchor_cases found⟩

namespace Pattern

section

variable {n : Nat} {s : CharSet} {p : Pattern} (grouped : p.groupsIn n s = true) {subject t : Text}
  (found : p.find? n subject = some t)

include grouped found

private theorem find?_run : t ≠ [] ∧ ∀ c ∈ t, s.holds c = true := by
  have here : ∀ c m, c.groups = [] → p.matchFrom? c = some m → ∀ entry ∈ m.groups,
      entry.1 = n → entry.2.text ≠ [] ∧ ∀ d ∈ entry.2.text, s.holds d = true := by
    intro c m fresh matched
    obtain ⟨d, ran, rfl⟩ := Option.map_eq_some_iff.mp matched
    exact (p.run_within grouped).ends ran (by simp [Cursor.CapturesIn, fresh])
  have anywhere : ∀ (after : Text) position before m, p.searchFrom position before after = some m →
      ∀ entry ∈ m.groups, entry.1 = n →
        entry.2.text ≠ [] ∧ ∀ d ∈ entry.2.text, s.holds d = true := by
    intro after
    induction after with
    | nil => exact fun position before m matched => here _ m rfl matched
    | cons c rest ih =>
      intro position before m matched
      rw [searchFrom] at matched
      split at matched
      · rename_i first
        exact here _ m rfl (by rw [first, matched])
      · exact ih _ _ m matched
  obtain ⟨m, searched, group⟩ := Option.bind_eq_some_iff.mp found
  obtain ⟨capture, captured, rfl⟩ := Option.map_eq_some_iff.mp group
  obtain ⟨_, _, entries, _⟩ := List.lookup_eq_some_iff.mp captured
  exact anywhere subject 0 [] m searched (n, capture) (by simp [entries]) rfl

/-- A group holds only code points of the set that it repeats. -/
theorem find?_within : ∀ c ∈ t, s.holds c = true := (find?_run grouped found).2

/-- A group that repeats a set at least once is not empty. -/
theorem find?_ne_nil : t ≠ [] := (find?_run grouped found).1

end

end Pattern

def wordSet : CharSet := ⟨[.named .word false], false, false⟩

def classNameSet : CharSet := ⟨[.one '\\', .named .word false], false, false⟩

namespace Message

variable {patterns : List Pattern} {message name : Text}

/-- Names that messages mention are made of the code points of a set, if the patterns say so. -/
theorem firstName?_within {s : CharSet}
    (grouped : patterns.all (Pattern.groupsIn 1 s) = true)
    (found : firstName? patterns message = some name) : ∀ c ∈ name, s.holds c = true := by
  obtain ⟨p, member, named⟩ := List.exists_of_findSome?_eq_some found
  exact Pattern.find?_within (List.all_eq_true.mp grouped p member) named

theorem firstName?_ne_nil {s : CharSet} (grouped : patterns.all (Pattern.groupsIn 1 s) = true)
    (found : firstName? patterns message = some name) : name ≠ [] := by
  obtain ⟨p, member, named⟩ := List.exists_of_findSome?_eq_some found
  exact Pattern.find?_ne_nil (List.all_eq_true.mp grouped p member) named

theorem firstName?_word (grouped : patterns.all (Pattern.groupsIn 1 wordSet) = true)
    (found : firstName? patterns message = some name) : ∀ c ∈ name, c.isWord = true := by
  intro c inside
  have held := firstName?_within grouped found c inside
  simpa [wordSet, CharSet.holds, SetItem.holds, CharClass.holds] using held

end Message

end DocRepair
