import DocRepair.Number.Integer
import DocRepair.Proofs.Text.Pieces
import DocRepair.Proofs.Text.Trimmed
import Mathlib.Data.Nat.Digits.Defs
import Mathlib.Tactic.Ring

namespace DocRepair

/-! ### Code points of integers -/

namespace CodePoint

variable {c : CodePoint}

theorem isDigit_of_decimal? {n : Nat} (value : c.decimal? = some n) : c.isDigit = true := by
  rw [isDigit, isDecimal, value]
  rfl

theorem isBlank_of_isDigit (digit : c.isDigit = true) : c.isBlank = false := by
  by_contra blank
  have checked : ∀ n ∈ blankRanges.numbers, (CodePoint.ofNat n).isDigit = false := by
    decide +kernel
  have same : CodePoint.ofNat c.val = c := by simp [CodePoint.ofNat, c.isLt]
  have other := checked c.val (RangeTable.mem_numbers (by simpa [CodePoint.isBlank] using blank))
  rw [same, digit] at other
  cases other

end CodePoint

/-! ### Surrounded texts -/

namespace Text

/-- A text is another with code points of a class on both sides. -/
def Surrounds (p : CodePoint → Bool) (t core : Text) : Prop :=
  ∃ front back : Text, t = front ++ core ++ back ∧ (∀ c ∈ front, p c = true) ∧ ∀ c ∈ back, p c = true

variable {p q : CodePoint → Bool} {t core : Text}

theorem Surrounds.mono (around : Surrounds p t core) (wider : ∀ c, p c = true → q c = true) :
    Surrounds q t core := by
  obtain ⟨front, back, parts, before, after⟩ := around
  exact ⟨front, back, parts, fun c member => wider c (before c member),
    fun c member => wider c (after c member)⟩

/-- What is left of a text when both ends are dropped stands inside it. -/
theorem surrounds_trim (p : CodePoint → Bool) (t : Text) :
    Surrounds p t (dropTrailing p (t.dropWhile p)) := by
  refine ⟨t.takeWhile p, (t.dropWhile p).rtakeWhile p, ?_, fun c => List.mem_takeWhile_imp,
    fun c => List.mem_rtakeWhile_imp⟩
  have right : dropTrailing p (t.dropWhile p) ++ (t.dropWhile p).rtakeWhile p = t.dropWhile p :=
    List.rdropWhile_append_rtakeWhile
  rw [List.append_assoc, right, List.takeWhile_append_dropWhile]

theorem Surrounds.trim_eq (around : Surrounds p t core) (solid : ∀ c ∈ core, p c = false) :
    dropTrailing p (t.dropWhile p) = core := by
  obtain ⟨front, back, rfl, before, after⟩ := around
  rw [List.append_assoc, List.dropWhile_append_of_pos before]
  cases core with
  | nil =>
    rw [List.nil_append, List.dropWhile_eq_nil_iff.mpr after]
    rfl
  | cons c rest =>
    have last : dropTrailing p (c :: rest) = c :: rest :=
      dropTrailing_eq_self fun d final => solid d (List.mem_of_getLast? final)
    rw [List.cons_append, List.dropWhile_cons_of_neg (by simp [solid c]), dropTrailing,
      ← List.cons_append, List.reverse_append, List.dropWhile_append_of_pos (by simpa using after)]
    exact last

theorem Surrounds.subset (around : Surrounds p t core) : core ⊆ t := by
  obtain ⟨front, back, rfl, _, _⟩ := around
  intro c member
  simp [member]

end Text

/-! ### Numbers that are written out -/

/-- Digits of any script write a number, the first digit counting most. -/
def Writes (digits : Text) (n : Nat) : Prop :=
  digits ≠ [] ∧ ∃ values : List Nat, digits.map CodePoint.decimal? = values.map some ∧
    n = Nat.ofDigits 10 values.reverse

theorem foldlM_decimal_iff {digits : Text} {first n : Nat} :
    digits.foldlM (fun n c => c.decimal?.map (n * 10 + ·)) first = some n ↔
      ∃ values : List Nat, digits.map CodePoint.decimal? = values.map some ∧
        n = first * 10 ^ values.length + Nat.ofDigits 10 values.reverse := by
  induction digits generalizing first with
  | nil =>
    simp only [List.foldlM_nil, List.map_nil, List.nil_eq, List.map_eq_nil_iff, exists_eq_left]
    simp [eq_comm]
  | cons c rest ih =>
    rw [List.foldlM_cons, List.map_cons]
    cases c.decimal? with
    | none =>
      refine iff_of_false (fun read => nomatch read) ?_
      rintro ⟨values, same, -⟩
      obtain ⟨_, _, _, ⟨⟩, _⟩ := List.map_eq_cons_iff.mp same.symm
    | some value =>
      have further : ∀ values : List Nat,
          (first * 10 + value) * 10 ^ values.length + Nat.ofDigits 10 values.reverse =
            first * 10 ^ (value :: values).length + Nat.ofDigits 10 (value :: values).reverse := by
        intro values
        rw [List.reverse_cons, Nat.ofDigits_append, Nat.ofDigits_singleton, List.length_reverse,
          List.length_cons, Nat.pow_succ]
        ring
      have read : (Option.map (first * 10 + ·) (some value) >>= fun n =>
          rest.foldlM (fun n c => c.decimal?.map (n * 10 + ·)) n) =
            rest.foldlM (fun n c => c.decimal?.map (n * 10 + ·)) (first * 10 + value) := rfl
      rw [read, ih]
      constructor
      · rintro ⟨values, same, rfl⟩
        exact ⟨value :: values, by rw [same, List.map_cons], further values⟩
      · rintro ⟨_, same, rfl⟩
        obtain ⟨_, values, rfl, ⟨⟩, others⟩ := List.map_eq_cons_iff.mp same.symm
        exact ⟨values, others.symm, (further values).symm⟩

theorem decimalDigits?_eq_some_iff {digits : Text} {n : Nat} :
    decimalDigits? digits = some n ↔ Writes digits n := by
  rw [decimalDigits?, Writes]
  by_cases empty : digits = []
  · simp [empty]
  · simp [empty, foldlM_decimal_iff]

theorem Writes.decimal {digits : Text} {n : Nat} (writes : Writes digits n) :
    ∀ c ∈ digits, ∃ value, c.decimal? = some value := by
  obtain ⟨-, values, same, -⟩ := writes
  intro c member
  obtain ⟨value, -, found⟩ := List.mem_map.mp (same ▸ List.mem_map_of_mem member)
  exact ⟨value, found.symm⟩

theorem Writes.isDigit {digits : Text} {n : Nat} (writes : Writes digits n) :
    ∀ c ∈ digits, c.isDigit = true := by
  intro c member
  obtain ⟨value, found⟩ := writes.decimal c member
  exact CodePoint.isDigit_of_decimal? found

theorem isIntegerBlank_eq_false {c : CodePoint} (solid : c.isBlank = false) :
    isIntegerBlank c = false := by
  rw [isIntegerBlank, solid, Bool.false_and]

theorem Writes.not_mem {digits : Text} {n : Nat} (writes : Writes digits n) {c : CodePoint}
    (other : c.decimal? = none) : c ∉ digits := by
  intro member
  obtain ⟨value, found⟩ := writes.decimal c member
  rw [other] at found
  cases found

theorem Writes.opensWith {digits : Text} {n : Nat} (writes : Writes digits n) {c : CodePoint}
    (other : c.decimal? = none) : digits.opensWith c = false := by
  rw [Text.opensWith, beq_eq_false_iff_ne]
  exact fun first => writes.not_mem other (List.mem_of_head? first)

theorem Writes.solid {digits : Text} {n : Nat} (writes : Writes digits n) :
    ∀ c ∈ digits, isIntegerBlank c = false := fun c member =>
  isIntegerBlank_eq_false (CodePoint.isBlank_of_isDigit (writes.isDigit c member))

theorem joinGroups?_of_not_mem {run : Text} (single : ('_' : CodePoint) ∉ run)
    (nonempty : run ≠ []) : joinGroups? run = some run := by
  simp [joinGroups?, Text.splitAt_of_not_mem single, nonempty]

/-- What is converted after the sign: digits and low lines up to the first other code point. -/
def digitRun (unsigned : Text) : Text :=
  unsigned.takeWhile fun c : CodePoint => c.isDecimal || c == '_'

theorem Writes.digitRun {digits : Text} {n : Nat} (writes : Writes digits n) :
    digitRun digits = digits := by
  apply List.takeWhile_eq_self_iff.mpr
  intro c member
  obtain ⟨value, found⟩ := writes.decimal c member
  simp [CodePoint.isDecimal, found]

/-! ### Conversion -/

/-- A text that opens with a code point is cut after it. -/
theorem eq_cons_of_opensWith {t : Text} {c : CodePoint} (opens : t.opensWith c = true) :
    t = c :: t.drop 1 := by
  cases t with
  | nil => cases opens
  | cons d rest =>
    obtain rfl : d = c := by simpa [Text.opensWith] using opens
    rfl

/-- What is converted is a sign and groups of digits, with white space around. -/
theorem readInteger_cases {t : Text} {n : Int} (read : readInteger t = .ok n) :
    ∃ (sign run digits : Text) (m : Nat), Text.Surrounds isIntegerBlank t (sign ++ run) ∧
      joinGroups? run = some digits ∧ digits.length ≤ maxIntegerDigits ∧ Writes digits m ∧
      (sign = ['-'] ∧ n = -m ∨ (sign = [] ∨ sign = ['+']) ∧ n = m) := by
  have around := Text.surrounds_trim isIntegerBlank t
  rw [readInteger] at read
  generalize Text.dropTrailing isIntegerBlank (t.dropWhile isIntegerBlank) = body at around read
  generalize cut : (if body.opensWith '-' || body.opensWith '+' then body.drop 1 else body) =
    unsigned at read
  have signed : ∃ sign, body = sign ++ unsigned ∧ ∀ m : Nat,
      sign = ['-'] ∧ (if body.opensWith '-' then -(m : Int) else m) = -m ∨
        (sign = [] ∨ sign = ['+']) ∧ (if body.opensWith '-' then -(m : Int) else m) = m := by
    by_cases minus : body.opensWith '-' = true
    · rw [minus, Bool.true_or, if_pos rfl] at cut
      exact ⟨['-'], by rw [← cut]; exact eq_cons_of_opensWith minus, by simp [minus]⟩
    · by_cases plus : body.opensWith '+' = true
      · rw [plus, Bool.or_true, if_pos rfl] at cut
        exact ⟨['+'], by rw [← cut]; exact eq_cons_of_opensWith plus, by simp [minus]⟩
      · rw [if_neg (by simp [minus, plus])] at cut
        exact ⟨[], cut, by simp [minus]⟩
  obtain ⟨sign, rfl, value⟩ := signed
  split at read
  · cases read
  · rename_i digits joined
    split at read
    · cases read
    · rename_i short
      split at read
      · cases read
      · rename_i whole
        split at read
        · cases read
        · rename_i m decimal
          cases read
          have all : unsigned.takeWhile (fun c : CodePoint => c.isDecimal || c == '_') = unsigned :=
            List.IsPrefix.eq_of_length_le (List.takeWhile_prefix _) (Nat.not_lt.mp whole)
          rw [all] at joined
          exact ⟨sign, unsigned, digits, m, around, joined, Nat.not_lt.mp short,
            decimalDigits?_eq_some_iff.mp decimal, value m⟩

section

variable {t digits : Text} {n : Nat} (writes : Writes digits n)

include writes

/-- Digits are converted to the number that they write, if they are not too many. -/
theorem readInteger_of_writes (around : Text.Surrounds isIntegerBlank t digits) :
    readInteger t = if maxIntegerDigits < digits.length then .error (.tooLong digits.length)
      else .ok n := by
  have run := writes.digitRun
  rw [digitRun] at run
  rw [readInteger, around.trim_eq writes.solid]
  simp [writes.opensWith, show CodePoint.decimal? '-' = none by decide,
    show CodePoint.decimal? '+' = none by decide, run,
    joinGroups?_of_not_mem (writes.not_mem (by decide)) writes.1,
    decimalDigits?_eq_some_iff.mpr writes]

theorem readInteger_of_writes_neg
    (around : Text.Surrounds isIntegerBlank t (('-' : CodePoint) :: digits)) :
    readInteger t = if maxIntegerDigits < digits.length then .error (.tooLong digits.length)
      else .ok (-n) := by
  have run := writes.digitRun
  rw [digitRun] at run
  have solid : ∀ c ∈ ('-' : CodePoint) :: digits, isIntegerBlank c = false :=
    List.forall_mem_cons.mpr ⟨by decide, writes.solid⟩
  rw [readInteger, around.trim_eq solid]
  simp [Text.opensWith, run, joinGroups?_of_not_mem (writes.not_mem (by decide)) writes.1,
    decimalDigits?_eq_some_iff.mpr writes]

end

end DocRepair
