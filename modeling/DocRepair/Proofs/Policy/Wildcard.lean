import DocRepair.Policy.Wildcard
import DocRepair.Proofs.Pattern.FirstPath

/-!
What a wildcard covers.

The pattern of a wildcard reads the subject line by line: a star ends before a line feed, and a line
feed at the end of the subject need not be covered. In a subject without a line feed a star stands
for any run, and the whole subject has to be covered. Where question marks are special, each stands
for one code point of a line.
-/

namespace DocRepair.Wildcard

open Cursor Matcher Pattern

/-- A wildcard covers a text: each star stands for a run of free code points, and everything else
for itself. -/
inductive Covers (free : CodePoint → Prop) : Text → Text → Prop
  | nil : Covers free [] []
  | literal {c : CodePoint} {wildcard subject : Text} (plain : c ≠ '*')
    (rest : Covers free wildcard subject) : Covers free (c :: wildcard) (c :: subject)
  | star {run wildcard subject : Text} (inside : ∀ x ∈ run, free x)
    (rest : Covers free wildcard subject) : Covers free ('*' :: wildcard) (run ++ subject)

/-- A wildcard covers a whole text, and a star any run of code points. -/
def CoversWhole (wildcard subject : Text) : Prop :=
  Covers (fun _ => True) wildcard subject

/-- A wildcard covers a text, or all of it but a line feed at its end, and a star a run without a
line feed. -/
def CoversLine (wildcard subject : Text) : Prop :=
  Covers (· ≠ '\n') wildcard subject ∨
    ∃ line, subject = line ++ Text.newline ∧ Covers (· ≠ '\n') wildcard line

theorem Covers.mono {free other : CodePoint → Prop} {wildcard subject : Text}
    (covers : Covers free wildcard subject) (wider : ∀ x ∈ subject, free x → other x) :
    Covers other wildcard subject := by
  induction covers with
  | nil => exact .nil
  | literal plain _ ih => exact .literal plain (ih fun x member => wider x (by simp [member]))
  | star inside _ ih =>
    refine .star (fun x member => wider x (by simp [member]) (inside x member)) ?_
    exact ih fun x member => wider x (by simp [member])

/-- Without a line feed in the subject there is only one reading. -/
theorem coversLine_iff {wildcard subject : Text} (oneLine : (('\n' : Char) : CodePoint) ∉ subject) :
    CoversLine wildcard subject ↔ CoversWhole wildcard subject := by
  constructor
  · rintro (covers | ⟨line, rfl, _⟩)
    · exact covers.mono fun _ _ _ => trivial
    · exact absurd (by simp [Text.newline]) oneLine
  · intro covers
    exact .inl (covers.mono fun x member _ same => oneLine (same ▸ member))

/-! ### Question marks -/

/-- A wildcard stands for a text: each star for a run without a line feed, each question mark, where
it is special, for one code point that is not a line feed, and everything else for itself. -/
inductive StandsFor (single : Bool) : Text → Text → Prop
  | nil : StandsFor single [] []
  | literal {c : CodePoint} {wildcard subject : Text} (plain : c ≠ '*')
    (ordinary : ¬(single = true ∧ c = '?')) (rest : StandsFor single wildcard subject) :
    StandsFor single (c :: wildcard) (c :: subject)
  | one {x : CodePoint} {wildcard subject : Text} (special : single = true) (inside : x ≠ '\n')
    (rest : StandsFor single wildcard subject) : StandsFor single ('?' :: wildcard) (x :: subject)
  | star {run wildcard subject : Text} (inside : ∀ x ∈ run, x ≠ '\n')
    (rest : StandsFor single wildcard subject) :
    StandsFor single ('*' :: wildcard) (run ++ subject)

/-- A wildcard stands for a text, or for all of it but a line feed at its end. -/
def StandsForLine (single : Bool) (wildcard subject : Text) : Prop :=
  ∃ line, StandsFor single wildcard line ∧ (subject = line ∨ subject = line ++ Text.newline)

theorem standsFor_false_iff {wildcard subject : Text} :
    StandsFor false wildcard subject ↔ Covers (· ≠ '\n') wildcard subject := by
  constructor
  · intro stands
    induction stands with
    | nil => exact .nil
    | literal plain _ _ ih => exact .literal plain ih
    | one special _ _ _ => cases special
    | star inside _ ih => exact .star inside ih
  · intro covers
    induction covers with
    | nil => exact .nil
    | literal plain _ ih => exact .literal plain (by simp) ih
    | star inside _ ih => exact .star inside ih

theorem standsForLine_false_iff {wildcard subject : Text} :
    StandsForLine false wildcard subject ↔ CoversLine wildcard subject := by
  simp only [StandsForLine, CoversLine, standsFor_false_iff]
  constructor
  · rintro ⟨line, covers, rfl | feed⟩
    · exact .inl covers
    · exact .inr ⟨line, feed, covers⟩
  · rintro (covers | ⟨line, feed, covers⟩)
    · exact ⟨subject, covers, .inl rfl⟩
    · exact ⟨line, covers, .inr feed⟩

/-! ### The pattern of a wildcard -/

private theorem notNewline_holds (x : CodePoint) :
    CharSet.holds ⟨[.one '\n'], true, false⟩ x = true ↔ x ≠ '\n' := by
  have other : ((('\n' : Char) : CodePoint) == x) = true ↔ x = '\n' := by
    rw [beq_iff_eq, eq_comm]
  simp [CharSet.holds, SetItem.holds, ← other]

theorem piece_cases (single : Bool) (c : CodePoint) :
    (c = '*' ∧ piece single c = Pattern.restOfLine) ∨
    (c = '?' ∧ single = true ∧ piece single c = Pattern.notNewline) ∨
    (c ≠ '*' ∧ ¬(single = true ∧ c = '?') ∧ piece single c = Pattern.one c) := by
  by_cases star : c = '*'
  · exact .inl ⟨star, by rw [piece, if_pos star]⟩
  · by_cases special : single = true ∧ c = '?'
    · refine .inr (.inl ⟨special.2, special.1, ?_⟩)
      rw [piece, if_neg star, if_pos (by simpa using special)]
    · refine .inr (.inr ⟨star, special, ?_⟩)
      rw [piece, if_neg star, if_neg (by simpa using special)]

theorem pieces_within (single : Bool) (wildcard : Text) :
    (all (wildcard.map (piece single))).run.Within fun c e =>
      ∃ t, c.after = t ++ e.after ∧ StandsFor single wildcard t := by
  induction wildcard with
  | nil => exact fun c k d found => ⟨c, ⟨[], rfl, .nil⟩, found⟩
  | cons x wildcard ih =>
    intro c k d found
    rw [List.map_cons, run_all_cons] at found
    rcases piece_cases single x with
      ⟨rfl, pattern⟩ | ⟨rfl, special, pattern⟩ | ⟨plain, ordinary, pattern⟩
    · rw [pattern] at found
      obtain ⟨e, ⟨run, inside, here, _, _⟩, later⟩ := rounds_within (carried_consumes _)
        (set_within ⟨[.one '\n'], true, false⟩) .greedy 0 none c _ d found
      obtain ⟨f, ⟨t, there, stands⟩, last⟩ := ih e k d later
      refine ⟨f, ⟨run ++ t, by rw [here, there, List.append_assoc], ?_⟩, last⟩
      exact .star (fun y member => (notNewline_holds y).mp (inside y member)) stands
    · rw [pattern] at found
      obtain ⟨y, rest, here, held, later⟩ := run_set_cases found
      obtain ⟨f, ⟨t, there, stands⟩, last⟩ := ih _ k d later
      refine ⟨f, ⟨y :: t, ?_, .one special ((notNewline_holds y).mp held) stands⟩, last⟩
      rw [here, show rest = t ++ f.after from there, List.cons_append]
    · rw [pattern] at found
      obtain ⟨y, rest, here, held, later⟩ := run_set_cases found
      obtain rfl : x = y := by simpa [CharSet.holds, SetItem.holds] using held
      obtain ⟨f, ⟨t, there, stands⟩, last⟩ := ih _ k d later
      refine ⟨f, ⟨x :: t, ?_, .literal plain ordinary stands⟩, last⟩
      rw [here, show rest = t ++ f.after from there, List.cons_append]

theorem reaches_set {s : CharSet} {x : CodePoint} (held : s.holds x = true) (front rest : Text)
    (groups : List (Nat × Capture)) :
    (Pattern.set s).run.Reaches (between front (x :: rest) groups)
      (between (front ++ [x]) rest groups) := by
  intro k follows
  rw [run_set_between, if_pos held]
  exact follows

theorem pieces_reach {single : Bool} {wildcard t : Text} (stands : StandsFor single wildcard t)
    (front rest : Text) (groups : List (Nat × Capture)) :
    (all (wildcard.map (piece single))).run.Reaches (between front (t ++ rest) groups)
      (between (front ++ t) rest groups) := by
  induction stands generalizing front with
  | nil =>
    rw [List.append_nil]
    exact (leads_all_nil _).reaches
  | @literal x wildcard t plain ordinary _ ih =>
    have pattern : piece single x = .set ⟨[.one x], false, false⟩ := by
      simp [piece, plain, ordinary, Pattern.one]
    rw [List.append_cons front x t, List.map_cons, pattern]
    exact reaches_all_cons (reaches_set (by simp [CharSet.holds, SetItem.holds]) _ _ _) (ih _)
  | @one x wildcard t special inside _ ih =>
    have pattern : piece single '?' = .set ⟨[.one '\n'], true, false⟩ := by
      rw [special]
      rfl
    rw [List.append_cons front x t, List.map_cons, pattern]
    exact reaches_all_cons (reaches_set ((notNewline_holds x).mpr inside) _ _ _) (ih _)
  | @star run wildcard t inside _ ih =>
    rw [List.append_assoc, ← List.append_assoc front]
    exact reaches_all_cons
      (reaches_many fun x member => (notNewline_holds x).mpr (inside x member)) (ih _)

/-- The pattern of a wildcard matches only at the start of a subject, and where the wildcard stands
for the subject or its only line. -/
theorem run_compile_iff (single : Bool) (wildcard front rest : Text) :
    ((compile wildcard single).run (between front rest []) some).isSome = true ↔
      front = [] ∧ StandsForLine single wildcard rest := by
  constructor
  · intro found
    obtain ⟨d, found⟩ := Option.isSome_iff_exists.mp found
    simp only [compile, Pattern.run] at found
    split at found
    · rename_i first
      obtain rfl : front = [] := by simpa [isAt, between] using first
      obtain ⟨e, ⟨t, split, stands⟩, last⟩ := pieces_within single wildcard _ _ d found
      obtain rfl : rest = t ++ e.after := split
      split at last
      · rename_i atEnd
        rw [isAt, Bool.or_eq_true, List.isEmpty_iff, beq_iff_eq] at atEnd
        refine ⟨rfl, t, stands, atEnd.imp (fun ended => ?_) fun lineEnd => ?_⟩
        · rw [ended, List.append_nil]
        · rw [lineEnd]
      · cases last
    · cases found
  · rintro ⟨rfl, t, stands, ending⟩
    obtain ⟨left, rfl, last⟩ : ∃ left, rest = t ++ left ∧
        (between t left []).isAt .lastLineEnd = true := by
      rcases ending with rfl | rfl
      · exact ⟨[], by rw [List.append_nil], rfl⟩
      · exact ⟨Text.newline, rfl, by simp [isAt, between]⟩
    have start : (between [] (t ++ left) []).isAt .textStart = true := rfl
    simp only [compile, Pattern.run, start, if_true]
    exact pieces_reach stands [] left [] _ (by simp [last])

/-- A pattern that matches only at the start is found at the start or not at all. -/
theorem found_iff {p : Pattern} {single : Bool} {wildcard : Text}
    (runs : ∀ front rest, (p.run (between front rest []) some).isSome = true ↔
      front = [] ∧ StandsForLine single wildcard rest) (subject : Text) :
    ((p.match? subject).isSome = true ↔ StandsForLine single wildcard subject) ∧
      (p.occursIn subject = true ↔ StandsForLine single wildcard subject) := by
  constructor
  · have start : (p.match? subject).isSome = (p.run (between [] subject []) some).isSome := by
      rw [match?, matchFrom?, Option.isSome_map]
      rfl
    rw [start, runs]
    exact and_iff_right rfl
  · rw [occursIn_iff]
    constructor
    · rintro ⟨front, rest, rfl, found⟩
      obtain ⟨rfl, stands⟩ := (runs front rest).mp found
      exact stands
    · intro stands
      exact ⟨[], subject, rfl, (runs [] subject).mpr ⟨rfl, stands⟩⟩

theorem occursIn_compile_iff (single : Bool) (wildcard subject : Text) :
    (compile wildcard single).occursIn subject = true ↔ StandsForLine single wildcard subject :=
  (found_iff (run_compile_iff single wildcard) subject).2

theorem compile_occursIn_iff (wildcard subject : Text) :
    (compile wildcard false).occursIn subject = true ↔ CoversLine wildcard subject :=
  (occursIn_compile_iff false wildcard subject).trans standsForLine_false_iff

end DocRepair.Wildcard
