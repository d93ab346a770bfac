import DocRepair.Text.Blank
import DocRepair.Text.Word
import Mathlib.Data.List.DropRight

namespace DocRepair

/-- The numbers of a table, one by one. -/
def RangeTable.numbers (table : RangeTable) : List Nat :=
  table.flatMap fun (low, high) => List.range' low (high + 1 - low)

theorem RangeTable.mem_numbers {table : RangeTable} {n : Nat} (inside : table.holds n = true) :
    n ∈ table.numbers := by
  fun_induction RangeTable.holds table n with
  | case1 => cases inside
  | case2 => cases inside
  | case3 low high rest n above below =>
    simp only [numbers, List.flatMap_cons, List.mem_append, List.mem_range'_1]
    omega
  | case4 low high rest n above beyond ih =>
    rw [numbers, List.flatMap_cons]
    exact List.mem_append_right _ (ih inside)

theorem CodePoint.isBlank_of_isWord {c : CodePoint} (word : c.isWord = true) :
    c.isBlank = false := by
  by_contra blank
  have checked : ∀ n ∈ blankRanges.numbers, (CodePoint.ofNat n).isWord = false := by
    decide +kernel
  have same : CodePoint.ofNat c.val = c := by simp [CodePoint.ofNat, c.isLt]
  have other := checked c.val (RangeTable.mem_numbers (by simpa [CodePoint.isBlank] using blank))
  rw [same, word] at other
  cases other

end DocRepair

namespace DocRepair.Text

/-- Neither the first nor the last code point is white space. -/
structure Trimmed (t : Text) : Prop where
  head : ∀ c ∈ t.head?, c.isBlank = false
  last : ∀ c ∈ t.getLast?, c.isBlank = false

theorem trimmed_nil : Trimmed [] := ⟨by simp, by simp⟩

theorem stripLeft_eq_self {t : Text} (head : ∀ c ∈ t.head?, c.isBlank = false) :
    t.stripLeft = t := by
  cases t with
  | nil => rfl
  | cons c rest => simp [stripLeft, head c (by simp)]

theorem dropTrailing_eq_self {p : CodePoint → Bool} {t : Text}
    (last : ∀ c ∈ t.getLast?, p c = false) : t.dropTrailing p = t := by
  have kept : t.rdropWhile p = t := by
    rw [List.rdropWhile_eq_self_iff]
    intro nonempty
    simp [last _ (List.getLast_mem_getLast? nonempty)]
  exact kept

theorem stripRight_eq_self {t : Text} (last : ∀ c ∈ t.getLast?, c.isBlank = false) :
    t.stripRight = t :=
  dropTrailing_eq_self last

theorem Trimmed.strip_eq {t : Text} (trimmed : Trimmed t) : t.strip = t := by
  rw [strip, stripLeft_eq_self trimmed.head, stripRight_eq_self trimmed.last]

theorem stripLeft_suffix (t : Text) : t.stripLeft <:+ t :=
  List.dropWhile_suffix _

theorem dropTrailing_concat {p : CodePoint → Bool} {c : CodePoint} (t : Text) (dropped : p c = true) :
    Text.dropTrailing p (t ++ [c]) = t.dropTrailing p :=
  List.rdropWhile_concat_pos p t c dropped

theorem dropTrailing_isPrefix (p : CodePoint → Bool) (t : Text) : t.dropTrailing p <+: t :=
  List.rdropWhile_prefix p t

theorem stripRight_isPrefix (t : Text) : t.stripRight <+: t :=
  dropTrailing_isPrefix _ t

theorem strip_isInfix (t : Text) : t.strip <:+: t :=
  (stripRight_isPrefix _).isInfix.trans (stripLeft_suffix t).isInfix

theorem head_stripLeft (t : Text) : ∀ c ∈ t.stripLeft.head?, c.isBlank = false := by
  intro c found
  have first := List.head?_dropWhile_not CodePoint.isBlank t
  rw [show t.dropWhile CodePoint.isBlank = t.stripLeft from rfl, Option.mem_def.mp found] at first
  simpa using first

theorem last_stripRight (t : Text) : ∀ c ∈ t.stripRight.getLast?, c.isBlank = false := by
  intro c found
  have reversed : c ∈ (t.reverse.dropWhile CodePoint.isBlank).head? := by
    simpa [stripRight, dropTrailing] using found
  exact head_stripLeft t.reverse c reversed

/-- Taking code points away at the front does not change the last one that stays. -/
theorem last_of_suffix {s t : Text} (suffix : s <:+ t)
    (last : ∀ c ∈ t.getLast?, c.isBlank = false) : ∀ c ∈ s.getLast?, c.isBlank = false := by
  obtain ⟨front, rfl⟩ := suffix
  intro c found
  apply last c
  cases s with
  | nil => simp at found
  | cons d rest => simpa [List.getLast?_append] using found

theorem head_of_isPrefix {s t : Text} (front : s <+: t)
    (head : ∀ c ∈ t.head?, c.isBlank = false) : ∀ c ∈ s.head?, c.isBlank = false := by
  obtain ⟨back, rfl⟩ := front
  intro c found
  apply head c
  cases s with
  | nil => simp at found
  | cons d rest => simpa using found

theorem trimmed_strip (t : Text) : Trimmed t.strip where
  head := head_of_isPrefix (stripRight_isPrefix t.stripLeft) (head_stripLeft t)
  last := last_stripRight t.stripLeft

theorem trimmed_stripLeft {t : Text} (last : ∀ c ∈ t.getLast?, c.isBlank = false) :
    Trimmed t.stripLeft where
  head := head_stripLeft t
  last := last_of_suffix (stripLeft_suffix t) last

/-- What the end of a text is does not depend on what is written in front of it. -/
theorem last_append {s t : Text} (nonempty : t ≠ [])
    (last : ∀ c ∈ t.getLast?, c.isBlank = false) : ∀ c ∈ (s ++ t).getLast?, c.isBlank = false := by
  intro c found
  cases t with
  | nil => exact absurd rfl nonempty
  | cons d rest => exact last c (by simpa [List.getLast?_append] using found)

/-- Two texts one after the other: the first gives the beginning, the second the end. -/
theorem trimmed_append {s t : Text} (nonempty : s ≠ []) (nonempty' : t ≠ [])
    (head : ∀ c ∈ s.head?, c.isBlank = false) (last : ∀ c ∈ t.getLast?, c.isBlank = false) :
    Trimmed (s ++ t) where
  head := by
    intro c found
    cases s with
    | nil => exact absurd rfl nonempty
    | cons d rest => exact head c (by simpa using found)
  last := last_append nonempty' last

theorem stripLeft_append {s t : Text} (blank : ∀ c ∈ s, c.isBlank = true) :
    (s ++ t).stripLeft = t.stripLeft := by
  induction s with
  | nil => rfl
  | cons c rest ih =>
    have first := blank c (by simp)
    have others := ih fun d member => blank d (by simp [member])
    simpa [stripLeft, first] using others

theorem stripRight_append {s t : Text} (blank : ∀ c ∈ t, c.isBlank = true) :
    (s ++ t).stripRight = s.stripRight := by
  have reversed : ∀ c ∈ t.reverse, c.isBlank = true :=
    fun c member => blank c (List.mem_reverse.mp member)
  have dropped := stripLeft_append (t := s.reverse) reversed
  simpa [stripRight, dropTrailing, stripLeft] using congrArg List.reverse dropped

theorem last_space {t : Text} (nonempty : t ≠ [])
    (last : ∀ c ∈ t.getLast?, c.isBlank = false) :
    ∀ c ∈ ((' ' : CodePoint) :: t).getLast?, c.isBlank = false :=
  last_append (s := [(' ' : CodePoint)]) nonempty last

theorem stripLeft_space {t : Text} (head : ∀ c ∈ t.head?, c.isBlank = false) :
    stripLeft ((' ' : CodePoint) :: t) = t := by
  have blank : (' ' : CodePoint).isBlank = true := by decide
  rw [stripLeft, List.dropWhile_cons_of_pos blank]
  exact stripLeft_eq_self head

/-- A text whose last code point is not white space does not strip to nothing. -/
theorem stripLeft_ne_nil {t : Text} (nonempty : t ≠ [])
    (last : ∀ c ∈ t.getLast?, c.isBlank = false) : t.stripLeft ≠ [] := by
  intro nothing
  rw [stripLeft, List.dropWhile_eq_nil_iff] at nothing
  have blank := nothing _ (List.getLast_mem nonempty)
  simp [last _ (List.getLast_mem_getLast? nonempty)] at blank

theorem stripLeft_append_of_ne_nil {s : Text} (t : Text) (some : s.stripLeft ≠ []) :
    (s ++ t).stripLeft = s.stripLeft ++ t := by
  induction s with
  | nil => exact absurd rfl some
  | cons c rest ih =>
    by_cases blank : c.isBlank = true
    · have later : stripLeft (c :: rest) = stripLeft rest := by simp [stripLeft, blank]
      rw [later] at some ⊢
      simpa [stripLeft, blank] using ih some
    · simp [stripLeft, blank]

theorem stripRight_append_of_ne_nil {t : Text} (s : Text) (some : t.stripRight ≠ []) :
    (s ++ t).stripRight = s ++ t.stripRight := by
  have reversed := stripLeft_append_of_ne_nil (s := t.reverse) s.reverse
    (by simpa [stripRight, dropTrailing, stripLeft] using some)
  simpa [stripRight, dropTrailing, stripLeft] using congrArg List.reverse reversed

theorem stripRight_ne_nil {t : Text} (solid : t.strip ≠ []) : t.stripRight ≠ [] := by
  intro nothing
  have blank : ∀ c ∈ t, c.isBlank = true := by
    simpa [stripRight, dropTrailing] using nothing
  have left : t.stripLeft = [] := by simpa [stripLeft] using blank
  exact solid (by rw [strip, left]; rfl)

theorem strip_stripLeft (t : Text) : t.stripLeft.strip = t.strip := by
  rw [strip, stripLeft_eq_self (head_stripLeft t), strip]

/-- A text is what stripping its end leaves, and white space. -/
theorem exists_stripRight_append (t : Text) :
    ∃ after, t = t.stripRight ++ after ∧ ∀ c ∈ after, c.isBlank = true :=
  ⟨t.rtakeWhile CodePoint.isBlank, List.rdropWhile_append_rtakeWhile.symm,
    fun _ member => List.mem_rtakeWhile_imp member⟩

theorem strip_append_blank (t : Text) {margin : Text} (blank : ∀ c ∈ margin, c.isBlank = true) :
    (t ++ margin).strip = t.strip := by
  by_cases nothing : t.stripLeft = []
  · have every : ∀ c ∈ t, c.isBlank = true := by simpa [stripLeft] using nothing
    have rest : margin.stripLeft = [] := by simpa [stripLeft] using blank
    rw [strip, strip, stripLeft_append every, rest, nothing]
  · rw [strip, strip, stripLeft_append_of_ne_nil _ nothing, stripRight_append blank]

theorem strip_stripRight (t : Text) : t.stripRight.strip = t.strip := by
  obtain ⟨after, parts, blank⟩ := exists_stripRight_append t
  conv_rhs => rw [parts, strip_append_blank _ blank]

/-- A text with a code point that is not white space does not strip to nothing. -/
theorem strip_ne_nil_of_mem {t : Text} {c : CodePoint} (member : c ∈ t)
    (solid : c.isBlank = false) : t.strip ≠ [] := by
  intro nothing
  have kept : t.stripLeft ≠ [] := by
    intro left
    rw [stripLeft, List.dropWhile_eq_nil_iff] at left
    simp [left c member] at solid
  have blank : ∀ d ∈ t.stripLeft, d.isBlank = true := by
    simpa [strip, stripRight, dropTrailing] using nothing
  obtain ⟨d, rest, front⟩ := List.exists_cons_of_ne_nil kept
  have plain := head_stripLeft t d (by rw [front]; rfl)
  rw [blank d (by rw [front]; simp)] at plain
  cases plain

/-! ### Indentation -/

theorem indent_blank (t : Text) : ∀ c ∈ t.indent, c.isBlank = true :=
  fun _ member => List.mem_takeWhile_imp member

/-- A text is its indentation, what stripping leaves, and white space. -/
theorem exists_indent_strip (t : Text) :
    ∃ after, t = t.indent ++ t.strip ++ after ∧ ∀ c ∈ after, c.isBlank = true := by
  have left : t.indent ++ t.stripLeft = t := List.takeWhile_append_dropWhile
  obtain ⟨after, right, blank⟩ := exists_stripRight_append t.stripLeft
  refine ⟨after, ?_, blank⟩
  rw [List.append_assoc, strip, ← right, left]

/-- White space before a code point that is none is the indentation. -/
theorem indent_append {front : Text} (blank : ∀ c ∈ front, c.isBlank = true) {c : CodePoint}
    (solid : c.isBlank = false) (rest : Text) : indent (front ++ c :: rest) = front := by
  rw [indent, List.takeWhile_append_of_pos blank, List.takeWhile_cons_of_neg (by simp [solid]),
    List.append_nil]

end DocRepair.Text
