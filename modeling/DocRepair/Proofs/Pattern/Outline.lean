import DocRepair.Proofs.Pattern.Captures
import DocRepair.Text.Search
import Mathlib.Data.List.Forall2

/-!
Where a pattern cannot match.

An outline is a text with gaps for names. A check on the outline alone shows that a pattern occurs
in none of its texts, or not before a place, whatever the names are: a match holds the code points
that the pattern asks for one after the other, and it begins with those that come first.
-/

namespace DocRepair

/-- Code points that stand in the given sets, one by one. -/
abbrev Fits (sets : List CharSet) (t : Text) : Prop :=
  List.Forall₂ (fun s c => CharSet.holds s c = true) sets t

/-- The sets of the code points of a text, one by one. -/
def exactSets (t : Text) : List CharSet :=
  t.map fun c => ⟨[.one c], false, false⟩

theorem fits_exactSets (t : Text) : Fits (exactSets t) t := by
  rw [Fits, exactSets, List.forall₂_map_left_iff, List.forall₂_same]
  simp [CharSet.holds, SetItem.holds]

/-- What may stand in a gap, and which sets may hold some of that. -/
structure GapClass where
  holds : CodePoint → Prop
  meets : CharSet → Bool
  sound : ∀ s c, holds c → s.holds c = true → meets s = true

inductive Piece where
  | known (c : CodePoint)
  | gap

/-- A text with gaps. -/
abbrev Outline := List Piece

namespace Outline

/-- The outline of a text without gaps. -/
def fixed (t : Text) : Outline := t.map .known

/-- The texts of an outline: each gap is filled by code points of a class. -/
inductive Describes (k : GapClass) : Outline → Text → Prop
  | nil : Describes k [] []
  | known (c : CodePoint) {o : Outline} {t : Text} (rest : Describes k o t) :
    Describes k (.known c :: o) (c :: t)
  | gap {name : Text} (inside : ∀ c ∈ name, k.holds c) {o : Outline} {t : Text}
    (rest : Describes k o t) : Describes k (.gap :: o) (name ++ t)

/-- What may be left of sets that code points have to fit after some of them have met a gap. -/
def afterGap (meets : CharSet → Bool) : List CharSet → List (List CharSet)
  | [] => [[]]
  | s :: rest => (s :: rest) :: if meets s then afterGap meets rest else []

/-- Whether a text of an outline may begin with code points that fit sets. -/
def mayBegin (meets : CharSet → Bool) : Outline → List CharSet → Bool
  | [], sets => sets.isEmpty
  | .known _ :: _, [] => true
  | .known c :: o, s :: sets => s.holds c && mayBegin meets o sets
  | .gap :: o, sets => (afterGap meets sets).any (mayBegin meets o)

/-- Whether code points that fit sets may stand in a text from some place in its front part on. -/
def mayStart (meets : CharSet → Bool) : (front back : Outline) → List CharSet → Bool
  | [], _, _ => false
  | piece :: front, back, sets =>
    mayBegin meets (piece :: (front ++ back)) sets || mayStart meets front back sets

/-- Whether code points that fit sets may stand in a text. -/
def mayHold (meets : CharSet → Bool) (o : Outline) (sets : List CharSet) : Bool :=
  sets.isEmpty || mayStart meets o [] sets

/-- The outline of the lower-case forms. The form of a capital sigma depends on what is around it. -/
def lower (o : Outline) : Outline :=
  o.flatMap fun
    | .known c => if c = capitalSigma then [.gap] else fixed (lowerForms [] c [])
    | .gap => [.gap]

variable {k : GapClass}

theorem describes_fixed (k : GapClass) (t : Text) : Describes k (fixed t) t := by
  induction t with
  | nil => exact .nil
  | cons c rest ih => exact .known c ih

theorem describes_gap {name : Text} (inside : ∀ c ∈ name, k.holds c) :
    Describes k [.gap] name := by
  simpa using Describes.gap inside .nil

theorem Describes.append {o o' : Outline} {t t' : Text} (first : Describes k o t)
    (second : Describes k o' t') : Describes k (o ++ o') (t ++ t') := by
  induction first with
  | nil => exact second
  | known c rest ih => exact .known c ih
  | gap inside rest ih =>
    rw [List.append_assoc]
    exact .gap inside ih

theorem lowerForms_eq {c : CodePoint} (other : c ≠ capitalSigma) (before after : Text) :
    lowerForms before c after = lowerForms [] c [] := by
  simp [lowerForms, other]

/-- Lower-case forms fill the gaps, if the class of the gaps has them. -/
theorem Describes.lowered {k' : GapClass} {o : Outline} {t : Text} (described : Describes k o t)
    (forms : ∀ c, k.holds c ∨ c = capitalSigma → ∀ before after, ∀ d ∈ lowerForms before c after,
      k'.holds d) (before : Text) : Describes k' (lower o) (lowerAfter before t) := by
  induction described generalizing before with
  | nil => exact .nil
  | @known c o t rest ih =>
    have later := ih (c :: before)
    rw [lowerAfter]
    by_cases sigma : c = capitalSigma
    · have here := (describes_gap (forms c (.inr sigma) before t)).append later
      simpa [lower, sigma] using here
    · have here := (describes_fixed k' (lowerForms before c t)).append later
      rw [lowerForms_eq sigma] at here ⊢
      simpa [lower, sigma] using here
  | @gap name inside o t rest ih =>
    show Describes k' (.gap :: lower o) _
    have shifted : ∀ before, ∃ filled other, lowerAfter before (name ++ t) =
        filled ++ lowerAfter other t ∧ ∀ d ∈ filled, k'.holds d := by
      clear ih
      induction name with
      | nil => exact fun before => ⟨[], before, rfl, by simp⟩
      | cons c name ih =>
        intro before
        obtain ⟨filled, other, same, inside'⟩ :=
          ih (fun d member => inside d (List.mem_cons_of_mem _ member)) (c :: before)
        refine ⟨lowerForms before c (name ++ t) ++ filled, other, ?_, ?_⟩
        · rw [List.cons_append, lowerAfter, same, List.append_assoc]
        · intro d member
          rcases List.mem_append.mp member with first | later
          · exact forms c (.inl (inside c List.mem_cons_self)) _ _ d first
          · exact inside' d later
    obtain ⟨filled, other, same, held⟩ := shifted before
    rw [same]
    exact .gap held (ih other)

theorem mem_afterGap {sets : List CharSet} {name : Text} (inside : ∀ c ∈ name, k.holds c)
    (fits : Fits sets name) (others : List CharSet) :
    others ∈ afterGap k.meets (sets ++ others) := by
  induction fits with
  | nil => cases others <;> simp [afterGap]
  | @cons s c sets name held fits ih =>
    have meets := k.sound s c (inside c (by simp)) held
    rw [List.cons_append, afterGap, if_pos meets]
    exact List.mem_cons_of_mem _ (ih fun d member => inside d (by simp [member]))

theorem mayBegin_of_fits {o : Outline} {t rest : Text} (described : Describes k o (t ++ rest))
    {sets : List CharSet} (fits : Fits sets t) : mayBegin k.meets o sets = true := by
  generalize whole : t ++ rest = u at described
  induction described generalizing t rest sets with
  | nil =>
    obtain ⟨rfl, _⟩ := List.append_eq_nil_iff.mp whole
    cases fits
    rfl
  | known c _ ih =>
    cases fits with
    | nil => rfl
    | cons held fits =>
      obtain ⟨rfl, same⟩ := List.cons.inj whole
      rw [mayBegin, held, Bool.true_and]
      exact ih fits same
  | @gap name inside o u _ ih =>
    rw [mayBegin, List.any_eq_true]
    rcases List.append_eq_append_iff.mp whole with ⟨more, filled, _⟩ | ⟨more, rfl, same⟩
    · -- The gap holds all of it.
      have front := mem_afterGap (fun c member => inside c (by simp [filled, member])) fits []
      rw [List.append_nil] at front
      exact ⟨[], front, ih .nil rfl⟩
    · -- The rest stands behind the gap.
      have front := mem_afterGap inside (List.forall₂_take_append _ _ _ fits)
        (sets.drop name.length)
      rw [List.take_append_drop] at front
      exact ⟨_, front, ih (List.forall₂_drop_append _ _ _ fits) same.symm⟩

/-- The check does not miss a place in the front part. -/
theorem mayStart_of_fits {o o' : Outline} {front back before t rest : Text}
    (first : Describes k o front) (second : Describes k o' back)
    (here : front ++ back = before ++ (t ++ rest)) (early : before.length < front.length)
    {sets : List CharSet} (fits : Fits sets t) : mayStart k.meets o o' sets = true := by
  induction first generalizing before t sets with
  | nil => cases early
  | @known c o front first ih =>
    rw [mayStart, Bool.or_eq_true]
    cases before with
    | nil =>
      rw [List.nil_append] at here
      have described := (Describes.known c first).append second
      rw [here] at described
      exact .inl (mayBegin_of_fits described fits)
    | cons d before =>
      obtain ⟨rfl, later⟩ := List.cons.inj here
      exact .inr (ih later (by simpa using early) fits)
  | @gap name inside o front first ih =>
    rw [mayStart, Bool.or_eq_true]
    rw [List.append_assoc] at here
    rcases List.append_eq_append_iff.mp here with ⟨later, rfl, same⟩ | ⟨left, rfl, same⟩
    · exact .inr (ih same (by simpa using early) fits)
    · -- What is left of the name fills the gap as well.
      have filled : ∀ c ∈ left, k.holds c := fun c member => inside c (by simp [member])
      have described := (Describes.gap filled first).append second
      rw [List.append_assoc, ← same] at described
      exact .inl (mayBegin_of_fits described fits)

theorem mayHold_of_fits {o : Outline} {before t rest : Text}
    (described : Describes k o (before ++ (t ++ rest))) {sets : List CharSet}
    (fits : Fits sets t) : mayHold k.meets o sets = true := by
  cases fits with
  | nil => rfl
  | @cons s c sets t held fits =>
    rw [mayHold, Bool.or_eq_true]
    refine .inr (mayStart_of_fits described .nil (List.append_nil _) ?_ (.cons held fits))
    simp

end Outline

/-! ### What a match begins with -/

/-- The sets that the first code points of a match are in. -/
structure Lead where
  sets : List CharSet
  /-- Whether there are no further code points. -/
  whole : Bool

/-- One lead after another, which is known only behind a whole one. -/
def Lead.andThen (first second : Lead) : Lead :=
  if first.whole then ⟨first.sets ++ second.sets, second.whole⟩ else ⟨first.sets, false⟩

/-- What every match of a pattern begins with. -/
def Pattern.lead : Pattern → Lead
  | .empty | .ahead _ _ | .behind _ _ _ | .anchor _ => ⟨[], true⟩
  | .set s => ⟨[s], true⟩
  | .seq p q => p.lead.andThen q.lead
  | .rep (_ + 1) _ _ p => ⟨p.lead.sets, false⟩
  | .group _ p | .atomic p => p.lead
  | .alt _ _ | .rep 0 _ _ _ | .again _ _ | .given _ _ _ => ⟨[], false⟩

namespace Cursor

/-- Nothing is read twice. -/
def Advances (c e : Cursor) : Prop := e.after <:+ c.after

theorem carried_advances : Carried Advances where
  refl _ := List.suffix_rfl
  trans first second := List.IsSuffix.trans second first

/-- The code points between two places begin as a lead says. -/
def Follows (lead : Lead) (c e : Cursor) : Prop :=
  ∃ t more : Text, c.after = t ++ (more ++ e.after) ∧ Fits lead.sets t ∧
    (lead.whole = true → more = [])

variable {c d e : Cursor} {lead : Lead}

theorem follows_whole (same : e.after = c.after) : c.Follows ⟨[], true⟩ e :=
  ⟨[], [], by simp [same], .nil, fun _ => rfl⟩

theorem Advances.follows (advances : c.Advances e) : c.Follows ⟨[], false⟩ e := by
  obtain ⟨more, after⟩ := advances
  exact ⟨[], more, after.symm, .nil, nofun⟩

theorem Follows.advances (follows : c.Follows lead e) : c.Advances e := by
  obtain ⟨t, more, after, _, _⟩ := follows
  exact ⟨t ++ more, by rw [after, List.append_assoc]⟩

theorem Follows.further (follows : c.Follows lead d) (advances : d.Advances e) :
    c.Follows ⟨lead.sets, false⟩ e := by
  obtain ⟨t, more, after, fits, _⟩ := follows
  obtain ⟨later, rest⟩ := advances
  exact ⟨t, more ++ later, by rw [after, ← rest, List.append_assoc], fits, nofun⟩

theorem Follows.andThen {second : Lead} (follows : c.Follows lead d)
    (later : d.Follows second e) : c.Follows (lead.andThen second) e := by
  rw [Lead.andThen]
  split
  · rename_i whole
    obtain ⟨t, more, after, fits, nothing⟩ := follows
    obtain ⟨u, others, rest, fits', nothing'⟩ := later
    refine ⟨t ++ u, others, ?_, List.rel_append fits fits', nothing'⟩
    rw [after, nothing whole, rest, List.nil_append, List.append_assoc]
  · exact follows.further later.advances

theorem advances_expect? {same : CodePoint → CodePoint → Bool} {t : Text}
    (expected : expect? same t c = some e) : c.Advances e := by
  induction t generalizing c with
  | nil =>
    cases expected
    exact carried_advances.refl _
  | cons x rest ih =>
    simp only [expect?, next?] at expected
    cases after : c.after with
    | nil => simp [after] at expected
    | cons y more =>
      simp only [after] at expected
      split at expected
      · have later := ih expected
        rw [Advances, after]
        exact List.IsSuffix.trans later (List.suffix_cons y more)
      · cases expected

end Cursor

namespace Pattern

open Cursor

theorem lead_within (p : Pattern) : p.run.Within (Follows p.lead) := by
  have loose : ∀ {p : Pattern}, p.run.Within (Follows p.lead) → p.run.Within Advances :=
    fun within c k d found => (within c k d found).imp fun e step => ⟨step.1.advances, step.2⟩
  have free : ∀ {m : Matcher}, m.Within Advances → m.Within (Follows ⟨[], false⟩) :=
    fun within c k d found => (within c k d found).imp fun e step => ⟨step.1.follows, step.2⟩
  induction p with
  | empty => exact fun c k d found => ⟨c, follows_whole rfl, found⟩
  | set s =>
    intro c k d found
    obtain ⟨x, rest, after, held, last⟩ := run_set_cases found
    exact ⟨_, ⟨[x], [], by simp [after], .cons held .nil, fun _ => rfl⟩, last⟩
  | seq p q first second =>
    intro c k d found
    obtain ⟨e, here, rest⟩ := first c _ d found
    obtain ⟨f, later, last⟩ := second e k d rest
    exact ⟨f, here.andThen later, last⟩
  | alt p q first second =>
    exact free fun c k d found =>
      (run_alt_cases found).elim (loose first c k d) (loose second c k d)
  | rep least most appetite p ih =>
    have rounds := Matcher.rounds_within carried_advances (loose ih) appetite
    cases least with
    | zero => exact free (rounds 0 most)
    | succ least =>
      intro c k d found
      obtain ⟨e, here, rest⟩ := ih c _ d found
      obtain ⟨f, later, last⟩ := rounds least _ e k d rest
      exact ⟨f, here.further later, last⟩
  | group n p ih =>
    intro c k d found
    obtain ⟨e, here, rest⟩ := ih c _ d found
    exact ⟨close n c e, here, rest⟩
  | again n likeness =>
    intro c k d found
    obtain ⟨_, _, e, expected, last⟩ := run_again_cases found
    exact ⟨e, (advances_expect? expected).follows, last⟩
  | ahead wanted p _ =>
    intro c k d found
    rcases run_ahead_cases found with here | ⟨e, _, last⟩
    · exact ⟨c, follows_whole rfl, here⟩
    · exact ⟨{ c with groups := e.groups }, follows_whole rfl, last⟩
  | behind wanted width p _ =>
    intro c k d found
    rcases run_behind_cases found with here | ⟨_, e, _, _, last⟩
    · exact ⟨c, follows_whole rfl, here⟩
    · exact ⟨{ c with groups := e.groups }, follows_whole rfl, last⟩
  | atomic p ih =>
    intro c k d found
    obtain ⟨e, inner, last⟩ := run_atomic_cases found
    exact ⟨e, ih.ends inner, last⟩
  | given n yes no first second =>
    exact free fun c k d found =>
      (run_given_cases found).elim (loose first c k d) (loose second c k d)
  | anchor a => exact fun c k d found => ⟨c, follows_whole rfl, run_anchor_cases found⟩

/-! ### Patterns on outlines -/

/-- Whether a pattern may match somewhere in a text of an outline. -/
def mayOccur (meets : CharSet → Bool) (o : Outline) : Pattern → Bool
  | .set s => o.mayHold meets [s]
  | .seq p q =>
    let first := (Pattern.seq p q).lead
    o.mayHold meets first.sets && (first.whole || (p.mayOccur meets o && q.mayOccur meets o))
  | .alt p q => p.mayOccur meets o || q.mayOccur meets o
  | .rep (_ + 1) _ _ p | .group _ p | .atomic p => p.mayOccur meets o
  | _ => true

variable {k : GapClass} {o o' : Outline}

theorem mayHold_lead {p : Pattern} {c d : Cursor} {follow : Cursor → Option Cursor}
    (found : p.run c follow = some d) {subject : Text} (described : o.Describes k subject)
    (inside : c.after <:+ subject) : o.mayHold k.meets p.lead.sets = true := by
  obtain ⟨e, ⟨t, more, after, fits, _⟩, _⟩ := p.lead_within c follow d found
  obtain ⟨before, rfl⟩ := inside
  rw [after] at described
  exact Outline.mayHold_of_fits described fits

theorem mayOccur_of_run {subject : Text} (described : o.Describes k subject) (p : Pattern)
    {c d : Cursor} {follow : Cursor → Option Cursor} (inside : c.after <:+ subject)
    (found : p.run c follow = some d) : p.mayOccur k.meets o = true := by
  induction p generalizing c d follow with
  | set s => exact mayHold_lead found described inside
  | seq p q first second =>
    have held := mayHold_lead found described inside
    obtain ⟨e, here, rest⟩ := p.lead_within c _ d found
    have both : (p.mayOccur k.meets o && q.mayOccur k.meets o) = true := by
      rw [first inside found, second (here.advances.trans inside) rest]
      rfl
    simp only [mayOccur, held, both, Bool.or_true, Bool.and_true]
  | alt p q first second =>
    rw [mayOccur, Bool.or_eq_true]
    exact (run_alt_cases found).imp (first inside) (second inside)
  | rep least most appetite p ih =>
    cases least with
    | zero => rfl
    | succ least => exact ih inside found
  | group n p ih => exact ih inside found
  | atomic p ih =>
    obtain ⟨e, inner, _⟩ := run_atomic_cases found
    exact ih inside inner
  | empty | again | ahead | behind | given | anchor => rfl

/-- A pattern that the outline excludes occurs nowhere, whatever fills the gaps. -/
theorem occursIn_eq_false {p : Pattern} {subject : Text} (described : o.Describes k subject)
    (excluded : p.mayOccur k.meets o = false) : p.occursIn subject = false := by
  have nowhere : ∀ c : Cursor, c.after <:+ subject → p.matchFrom? c = none := by
    intro c inside
    rw [matchFrom?, Option.map_eq_none_iff, Option.eq_none_iff_forall_ne_some]
    intro d found
    have may := mayOccur_of_run described p inside found
    rw [excluded] at may
    cases may
  have search : ∀ after position before, after <:+ subject →
      p.searchFrom position before after = none := by
    intro after
    induction after with
    | nil => exact fun position before inside => nowhere _ inside
    | cons c rest ih =>
      intro position before inside
      rw [searchFrom, nowhere _ inside]
      exact ih _ _ ((List.suffix_cons c rest).trans inside)
  rw [occursIn, search?, search subject 0 [] List.suffix_rfl]
  rfl

/-- A search passes over a front part in which the outline lets no match start. -/
theorem search?_append {p : Pattern} {front back : Text} (first : o.Describes k front)
    (second : o'.Describes k back) (excluded : o.mayStart k.meets o' p.lead.sets = false) :
    p.search? (front ++ back) = p.searchFrom front.length front.reverse back := by
  have skip : ∀ later before : Text, front = before ++ later →
      p.searchFrom before.length before.reverse (later ++ back) =
        p.searchFrom front.length front.reverse back := by
    intro later
    induction later with
    | nil => exact fun before split => by rw [split, List.append_nil, List.nil_append]
    | cons c later ih =>
      intro before split
      have none : p.matchFrom? ⟨before.length, before.reverse, c :: (later ++ back), []⟩ = none := by
        rw [matchFrom?, Option.map_eq_none_iff, Option.eq_none_iff_forall_ne_some]
        intro d found
        obtain ⟨e, ⟨t, more, after, fits, _⟩, _⟩ := p.lead_within _ some d found
        have here : front ++ back = before ++ (t ++ (more ++ e.after)) := by
          rw [split, List.append_assoc, List.cons_append, ← after]
        have early : before.length < front.length := by simp [split]
        have may := Outline.mayStart_of_fits first second here early fits
        rw [excluded] at may
        cases may
      rw [List.cons_append, searchFrom, none]
      have next := ih (before ++ [c]) (by rw [split, List.append_assoc]; rfl)
      rwa [List.length_append, List.reverse_append] at next
  exact skip front [] rfl

end Pattern

end DocRepair
