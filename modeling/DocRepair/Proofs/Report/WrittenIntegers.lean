import DocRepair.Proofs.Number.Digits
import DocRepair.Report.Integer

/-!
Which values of a report are integers.

An integer is a number of the report, or a text of decimal digits after at most one minus sign. A
text is tested before it is converted, and the test lets more texts through than can be converted:
any count of minus signs, digits that are not decimal, and more white space around them.
-/

namespace DocRepair

namespace Report

/-! ### Integers that are written out -/

/-- A text is an integer: digits that write it, not too many, after at most one minus sign, with
white space around. -/
inductive IsInteger (t : Text) : Int → Prop
  | plain {digits : Text} {n : Nat} (writes : Writes digits n)
    (short : digits.length ≤ maxIntegerDigits)
    (around : Text.Surrounds isIntegerBlank t digits) : IsInteger t n
  | negative {digits : Text} {n : Nat} (writes : Writes digits n)
    (short : digits.length ≤ maxIntegerDigits)
    (around : Text.Surrounds isIntegerBlank t ('-' :: digits)) : IsInteger t (-n)

/-- A text looks like an integer: digits in the wide sense after minus signs, with white space
around. -/
def Resembles (t : Text) : Prop :=
  ∃ signs digits : Text, Text.Surrounds CodePoint.isBlank t (signs ++ digits) ∧
    (∀ c ∈ signs, c = '-') ∧ digits ≠ [] ∧ ∀ c ∈ digits, c.isDigit = true

/-- A text without plus signs and low lines is converted exactly if it is an integer, and to that
integer. -/
theorem readInteger_eq_ok_iff {t : Text} {n : Int} (unsigned : ('+' : CodePoint) ∉ t)
    (single : ('_' : CodePoint) ∉ t) : readInteger t = .ok n ↔ IsInteger t n := by
  constructor
  · intro read
    obtain ⟨sign, run, digits, m, around, joined, short, writes, signed⟩ := readInteger_cases read
    have nonempty : run ≠ [] := by
      rintro rfl
      cases joined
    have low : ('_' : CodePoint) ∉ run := fun member =>
      single (around.subset (List.mem_append_right _ member))
    rw [joinGroups?_of_not_mem low nonempty] at joined
    cases joined
    rcases signed with ⟨rfl, rfl⟩ | ⟨rfl | rfl, rfl⟩
    · exact .negative writes short around
    · exact .plain writes short around
    · exact absurd (around.subset List.mem_cons_self) unsigned
  · intro integer
    cases integer with
    | plain writes short around =>
      rw [readInteger_of_writes writes around, if_neg (Nat.not_lt.mpr short)]
    | negative writes short around =>
      rw [readInteger_of_writes_neg writes around, if_neg (Nat.not_lt.mpr short)]

theorem looksInteger_iff {t : Text} : looksInteger t = true ↔ Resembles t := by
  have minus : ∀ c : CodePoint, (c == '-') = true ↔ c = '-' := fun c => beq_iff_eq
  rw [looksInteger, Bool.and_eq_true, Bool.not_eq_true', List.isEmpty_eq_false_iff,
    List.all_eq_true]
  constructor
  · rintro ⟨some, wide⟩
    refine ⟨t.strip.takeWhile (· == '-'), t.strip.dropWhile (· == '-'), ?_, ?_, some, wide⟩
    · rw [List.takeWhile_append_dropWhile]
      exact Text.surrounds_trim CodePoint.isBlank t
    · intro c member
      have sign := List.mem_takeWhile_imp member
      exact (minus c).mp sign
  · rintro ⟨signs, digits, around, dashes, some, wide⟩
    have solid : ∀ c ∈ signs ++ digits, c.isBlank = false := by
      intro c member
      rcases List.mem_append.mp member with sign | digit
      · rw [dashes c sign]
        rfl
      · exact CodePoint.isBlank_of_isDigit (wide c digit)
    have inside : t.strip = signs ++ digits := around.trim_eq solid
    have rest : (signs ++ digits).dropWhile (· == ('-' : CodePoint)) = digits := by
      rw [List.dropWhile_append_of_pos fun c sign => (minus c).mpr (dashes c sign)]
      cases digits with
      | nil => rfl
      | cons c digits =>
        refine List.dropWhile_cons_of_neg fun sign => ?_
        have digit := wide c List.mem_cons_self
        rw [(minus c).mp sign] at digit
        cases digit
    rw [inside, rest]
    exact ⟨some, wide⟩

theorem Resembles.not_mem {t : Text} (resembles : Resembles t) {c : CodePoint}
    (solid : c.isBlank = false) (sign : c ≠ '-') (other : c.isDigit = false) : c ∉ t := by
  obtain ⟨signs, digits, ⟨front, back, rfl, before, after⟩, dashes, _, wide⟩ := resembles
  intro member
  simp only [List.mem_append] at member
  rcases member with (first | dash | digit) | last
  · exact absurd (before c first) (by simp [solid])
  · exact sign (dashes c dash)
  · exact absurd (wide c digit) (by simp [other])
  · exact absurd (after c last) (by simp [solid])

/-- A text that looks like an integer is converted exactly if it is one. -/
theorem Resembles.readInteger_iff {t : Text} {n : Int} (resembles : Resembles t) :
    readInteger t = .ok n ↔ IsInteger t n :=
  readInteger_eq_ok_iff (resembles.not_mem (by decide) (by decide) (by decide +kernel))
    (resembles.not_mem (by decide) (by decide) (by decide +kernel))

theorem IsInteger.resembles {t : Text} {n : Int} (integer : IsInteger t n) : Resembles t := by
  have wider : ∀ c : CodePoint, isIntegerBlank c = true → c.isBlank = true := by
    intro c blank
    exact (Bool.and_eq_true_iff.mp blank).1
  cases integer with
  | @plain digits _ writes _ around =>
    exact ⟨[], digits, around.mono wider, by simp, writes.1, writes.isDigit⟩
  | @negative digits _ writes _ around =>
    exact ⟨['-'], digits, around.mono wider, by simp, writes.1, writes.isDigit⟩

/-! ### Values of a report -/

/-- A value counts as an integer: it is one, or a text that is one. -/
inductive CountsAs : Datum → Int → Prop
  | int (n : Int) : CountsAs (.int n) n
  | text {t : Text} {n : Int} (integer : IsInteger t n) : CountsAs (.text t) n

/-- A value is a text that looks like an integer and is none. -/
inductive Misleads : Datum → Prop
  | text {t : Text} (resembles : Resembles t) (none : ∀ n, ¬IsInteger t n) : Misleads (.text t)

variable {value : Datum}

theorem integer?_eq_some_iff {n : Int} : integer? value = .ok (some n) ↔ CountsAs value n := by
  cases value with
  | int m =>
    rw [integer?, Except.ok.injEq, Option.some.injEq]
    exact ⟨fun same => same ▸ .int m, fun counts => by cases counts; rfl⟩
  | text t =>
    have counts : CountsAs (.text t) n ↔ IsInteger t n :=
      ⟨fun counts => by cases counts; assumption, .text⟩
    rw [counts, integer?]
    by_cases looks : looksInteger t = true
    · rw [← (looksInteger_iff.mp looks).readInteger_iff]
      cases readInteger t <;> simp [looks, Except.map]
    · have none : ¬IsInteger t n := fun integer => looks (looksInteger_iff.mpr integer.resembles)
      simp [looks, none]
  | _ => exact iff_of_false (fun read => nomatch read) fun counts => nomatch counts

theorem integer?_fails_iff : (∃ fault, integer? value = .error fault) ↔ Misleads value := by
  cases value with
  | text t =>
    have misleads : Misleads (.text t) ↔ Resembles t ∧ ∀ n, ¬IsInteger t n :=
      ⟨fun misleads => by cases misleads; constructor <;> assumption, fun both => .text both.1 both.2⟩
    rw [misleads, integer?]
    by_cases looks : looksInteger t = true
    · have resembles := looksInteger_iff.mp looks
      simp only [← resembles.readInteger_iff]
      cases readInteger t <;> simp [looks, resembles, Except.map]
    · simp [looks, ← looksInteger_iff]
  | _ => exact iff_of_false (fun ⟨_, failed⟩ => nomatch failed) fun misleads => nomatch misleads

end Report

end DocRepair
