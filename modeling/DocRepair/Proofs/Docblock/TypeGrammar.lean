import DocRepair.Proofs.Docblock.EntryValues
import DocRepair.Proofs.Docblock.WholeType

/-!
Where the type of a value ends, said without the scan.

A type reaches to the first white space that stands outside brackets and not behind a colon, or to
the end of the value if there is no such place. What is split off there is split off again from the
type and the rest with a single space between them.
-/

namespace DocRepair.Docblock

open Text

/-! ### Break points -/

/-- Whether the last code point that is not white space is a colon. -/
def endsInColon (t : Text) : Bool := t.stripRight.getLast? == some (':' : CodePoint)

/-- A type breaks off before white space outside brackets, unless a colon stands in front of it. -/
structure Breaks (before : Text) (c : CodePoint) : Prop where
  blank : c.isBlank = true
  outside : openBrackets 0 before = 0
  plain : endsInColon before = false

/-- Behind a text that has been read, a type breaks off nowhere in the text that follows. -/
def UnbrokenFrom (front t : Text) : Prop :=
  ∀ before c after, t = before ++ c :: after → ¬Breaks (front ++ before) c

/-- A type breaks off nowhere in a text. -/
def Unbroken (t : Text) : Prop := UnbrokenFrom [] t

/-- The first place where a type breaks off. -/
structure FirstBreak (t before : Text) (c : CodePoint) (after : Text) : Prop where
  parts : t = before ++ c :: after
  breaks : Breaks before c
  unbroken : Unbroken before

theorem breaks_iff {before : Text} {c : CodePoint} :
    Breaks before c ↔
      c.isBlank = true ∧ openBrackets 0 before = 0 ∧ endsInColon before = false :=
  ⟨fun breaks => ⟨breaks.blank, breaks.outside, breaks.plain⟩,
    fun ⟨blank, outside, plain⟩ => ⟨blank, outside, plain⟩⟩

instance (before : Text) (c : CodePoint) : Decidable (Breaks before c) :=
  decidable_of_iff _ breaks_iff.symm

theorem unbrokenFrom_nil (front : Text) : UnbrokenFrom front [] := by
  intro before c after parts
  simp at parts

theorem unbrokenFrom_cons_iff {front rest : Text} {c : CodePoint} :
    UnbrokenFrom front (c :: rest) ↔ ¬Breaks front c ∧ UnbrokenFrom (front ++ [c]) rest := by
  constructor
  · intro unbroken
    refine ⟨by simpa using unbroken [] c rest rfl, fun before d after parts => ?_⟩
    have later := unbroken (c :: before) d after (by rw [parts, List.cons_append])
    rwa [List.append_assoc, List.singleton_append]
  · intro ⟨here, later⟩ before d after parts
    cases before with
    | nil =>
      obtain ⟨rfl, -⟩ : c = d ∧ rest = after := by simpa using parts
      simpa using here
    | cons e before =>
      obtain ⟨rfl, behind⟩ : c = e ∧ rest = before ++ d :: after := by simpa using parts
      have there := later before d after behind
      rwa [List.append_assoc, List.singleton_append] at there

theorem FirstBreak.not_unbroken {t before after : Text} {c : CodePoint}
    (first : FirstBreak t before c after) : ¬Unbroken t :=
  fun unbroken => unbroken before c after first.parts first.breaks

/-- Of two places the earlier one is the first. -/
theorem FirstBreak.unique {t before after before' after' : Text} {c c' : CodePoint}
    (first : FirstBreak t before c after) (other : FirstBreak t before' c' after') :
    before = before' ∧ c :: after = c' :: after' := by
  have earlier : ∀ {front back : Text} {d d' : CodePoint} {rest rest' : Text},
      back ++ d :: rest = front ++ d' :: rest' → Unbroken back → Breaks front d' →
        ∃ between, front = back ++ between := by
    intro front back d d' rest rest' same unbroken breaks
    rcases List.append_eq_append_iff.mp same with ⟨between, longer, -⟩ | ⟨between, longer, parts⟩
    · exact ⟨between, longer⟩
    · cases between with
      | nil => exact ⟨[], by simpa using longer.symm⟩
      | cons e between =>
        obtain ⟨rfl, -⟩ := List.cons.inj parts
        exact absurd breaks (unbroken front d' between longer)
  have same := first.parts.symm.trans other.parts
  obtain ⟨between, rfl⟩ := earlier same first.unbroken other.breaks
  obtain ⟨behind, none⟩ := earlier same.symm other.unbroken first.breaks
  obtain ⟨rfl, -⟩ : between = [] ∧ behind = [] := by
    simpa [List.append_assoc] using none.symm
  rw [List.append_nil] at same ⊢
  exact ⟨rfl, List.append_cancel_left same⟩

/-! ### The scan stops at the first break point -/

theorem openBrackets_concat (depth : Nat) (t : Text) (c : CodePoint) :
    openBrackets depth (t ++ [c]) = nextDepth (openBrackets depth t) c := by
  rw [openBrackets, List.foldl_append]
  rfl

theorem endsInColon_concat_blank (t : Text) {c : CodePoint} (blank : c.isBlank = true) :
    endsInColon (t ++ [c]) = endsInColon t := by
  rw [endsInColon, stripRight_append (by simpa using blank), endsInColon]

theorem endsInColon_of_last {t : Text} (last : ∀ c ∈ t.getLast?, c.isBlank = false) :
    endsInColon t = (t.getLast? == some (':' : CodePoint)) := by
  rw [endsInColon, stripRight_eq_self last]

theorem endsInColon_concat_solid (t : Text) {c : CodePoint} (solid : c.isBlank = false) :
    endsInColon (t ++ [c]) = (c == (':' : CodePoint)) := by
  rw [endsInColon_of_last (by simpa using solid), List.getLast?_concat, Bool.eq_iff_iff]
  simp

/-- The scan of what follows a text that has been read. -/
def scanFrom (front t : Text) : TypeScan :=
  scanType (openBrackets 0 front) (endsInColon front) t

theorem scanFrom_cons (front : Text) (c : CodePoint) (rest : Text) :
    scanFrom front (c :: rest) =
      if Breaks front c then ⟨[], c :: rest, 0⟩ else (scanFrom (front ++ [c]) rest).cons c := by
  simp only [scanFrom, openBrackets_concat, breaks_iff]
  by_cases blank : c.isBlank = true
  · obtain ⟨opens, closes⟩ := not_bracket_of_isBlank blank
    rw [endsInColon_concat_blank front blank]
    by_cases outside : openBrackets 0 front = 0
    · cases plain : endsInColon front <;>
        simp [scanType, nextDepth, opens, closes, blank, outside]
    · simp [scanType, nextDepth, opens, closes, blank, outside]
  · have solid : c.isBlank = false := by simpa using blank
    have colon : opensBracket c = true ∨ closesBracket c = true → (c == (':' : CodePoint)) = false := by
      intro bracket
      rw [beq_eq_false_iff_ne]
      rintro rfl
      revert bracket
      decide
    rw [endsInColon_concat_solid front solid, if_neg (by simp [solid])]
    by_cases opens : opensBracket c = true
    · simp [scanType, nextDepth, opens, colon (.inl opens)]
    · by_cases closes : closesBracket c = true
      · by_cases outside : openBrackets 0 front = 0
        · simp [scanType, nextDepth, opens, closes, solid, outside]
        · simp [scanType, nextDepth, opens, closes, outside, colon (.inr closes)]
      · simp [scanType, nextDepth, opens, closes, solid]

/-- A scan goes to the end of a text that is unbroken, and else to the first break point. -/
theorem scanFrom_cases (front t : Text) :
    (UnbrokenFrom front t ∧ scanFrom front t = ⟨t, [], openBrackets 0 (front ++ t)⟩) ∨
      ∃ before c after, t = before ++ c :: after ∧ Breaks (front ++ before) c ∧
        UnbrokenFrom front before ∧ scanFrom front t = ⟨before, c :: after, 0⟩ := by
  induction t generalizing front with
  | nil => exact .inl ⟨unbrokenFrom_nil front, by rw [List.append_nil]; rfl⟩
  | cons c rest ih =>
    rw [scanFrom_cons]
    by_cases breaks : Breaks front c
    · rw [if_pos breaks]
      exact .inr ⟨[], c, rest, rfl, by simpa using breaks, unbrokenFrom_nil front, rfl⟩
    · rw [if_neg breaks]
      rcases ih (front ++ [c]) with
        ⟨unbroken, scanned⟩ | ⟨before, d, after, rfl, later, unbroken, scanned⟩
      · refine .inl ⟨unbrokenFrom_cons_iff.mpr ⟨breaks, unbroken⟩, ?_⟩
        rw [scanned, TypeScan.cons, List.append_assoc, List.singleton_append]
      · rw [List.append_assoc, List.singleton_append] at later
        exact .inr ⟨c :: before, d, after, rfl, later,
          unbrokenFrom_cons_iff.mpr ⟨breaks, unbroken⟩, by rw [scanned, TypeScan.cons]⟩

theorem scanType_cases (t : Text) :
    (Unbroken t ∧ scanType 0 false t = ⟨t, [], openBrackets 0 t⟩) ∨
      ∃ before c after, FirstBreak t before c after ∧
        scanType 0 false t = ⟨before, c :: after, 0⟩ := by
  rcases scanFrom_cases [] t with ⟨unbroken, scanned⟩ | ⟨before, c, after, parts, breaks, unbroken, scanned⟩
  · exact .inl ⟨unbroken, scanned⟩
  · exact .inr ⟨before, c, after, ⟨parts, breaks, unbroken⟩, scanned⟩

theorem scanType_of_unbroken {t : Text} (unbroken : Unbroken t) :
    scanType 0 false t = ⟨t, [], openBrackets 0 t⟩ := by
  rcases scanType_cases t with ⟨-, scanned⟩ | ⟨before, c, after, first, -⟩
  · exact scanned
  · exact absurd unbroken first.not_unbroken

theorem scanType_of_firstBreak {t before after : Text} {c : CodePoint}
    (first : FirstBreak t before c after) : scanType 0 false t = ⟨before, c :: after, 0⟩ := by
  rcases scanType_cases t with ⟨unbroken, -⟩ | ⟨before', c', after', other, scanned⟩
  · exact absurd unbroken first.not_unbroken
  · obtain ⟨rfl, same⟩ := first.unique other
    rw [scanned, same]

/-! ### Splitting at the first break point -/

/-- The place where a type ends is not behind white space. -/
theorem FirstBreak.last {t before after : Text} {c : CodePoint}
    (first : FirstBreak t before c after) : ∀ d ∈ before.getLast?, d.isBlank = false := by
  intro d final
  by_contra shown
  have blank : d.isBlank = true := by simpa using shown
  obtain ⟨front, rfl⟩ := List.getLast?_eq_some_iff.mp final
  obtain ⟨opens, closes⟩ := not_bracket_of_isBlank blank
  have outside := first.breaks.outside
  have plain := first.breaks.plain
  rw [openBrackets_concat] at outside
  rw [endsInColon_concat_blank front blank] at plain
  exact first.unbroken front d [] rfl ⟨blank, by simpa [nextDepth, opens, closes] using outside, plain⟩

variable {value type rest : Text}

theorem splitType?_of_firstBreak {before after : Text} {c : CodePoint}
    (first : FirstBreak value.strip before c after) (nonempty : before ≠ [])
    (plain : before.head? ≠ some ('$' : CodePoint)) :
    splitType? value = some (before, strip (c :: after)) := by
  rw [splitType?_eq_some_iff, scanType_of_firstBreak first]
  exact ⟨rfl, rfl, rfl, nonempty, plain⟩

theorem splitType?_of_unbroken (unbroken : Unbroken value.strip)
    (closed : openBrackets 0 value.strip = 0) (nonempty : value.strip ≠ [])
    (plain : value.strip.head? ≠ some ('$' : CodePoint)) :
    splitType? value = some (value.strip, []) := by
  rw [splitType?_eq_some_iff, scanType_of_unbroken unbroken]
  exact ⟨closed, rfl, rfl, nonempty, plain⟩

/-- White space that a type breaks off before has a type in front of it. -/
theorem FirstBreak.head {t before after : Text} {c : CodePoint} (first : FirstBreak t before c after)
    (trimmed : Trimmed t) : before ≠ [] ∧ before.head? = t.head? := by
  cases before with
  | nil =>
    have blank := first.breaks.blank
    rw [trimmed.head c (by rw [first.parts]; rfl)] at blank
    cases blank
  | cons d more => exact ⟨by simp, by rw [first.parts]; rfl⟩

theorem splitType?_eq_none_iff : splitType? value = none ↔
    value.strip = [] ∨ value.strip.head? = some ('$' : CodePoint) ∨
      Unbroken value.strip ∧ openBrackets 0 value.strip ≠ 0 := by
  rcases scanType_cases value.strip with ⟨unbroken, scanned⟩ | ⟨before, c, after, first, scanned⟩
  · constructor
    · intro none
      by_contra refused
      simp only [not_or, not_and, not_not] at refused
      obtain ⟨nonempty, plain, closed⟩ := refused
      rw [splitType?_of_unbroken unbroken (closed unbroken) nonempty plain] at none
      cases none
    · rintro (empty | dollar | ⟨-, unbalanced⟩)
      · simp [splitType?, empty, scanType]
      · simp [splitType?, scanned, dollar]
      · simp [splitType?, scanned, unbalanced]
  · obtain ⟨nonempty, same⟩ := first.head (trimmed_strip value)
    constructor
    · intro none
      by_contra refused
      simp only [not_or] at refused
      rw [splitType?_of_firstBreak first nonempty (same ▸ refused.2.1)] at none
      cases none
    · rintro (empty | dollar | ⟨unbroken, -⟩)
      · rw [empty] at first
        simpa using first.parts
      · simp [splitType?, scanned, same, dollar]
      · exact absurd unbroken first.not_unbroken

/-- A type ends at the first break point of its value, or it is the whole value; brackets are closed
there. -/
inductive EndsType (value type rest : Text) : Prop
  | broken {c : CodePoint} {after : Text} (first : FirstBreak value type c after)
    (left : strip (c :: after) = rest)
  | whole (unbroken : Unbroken value) (closed : openBrackets 0 value = 0) (all : type = value)
    (nothing : rest = [])

theorem endsType_of_split (split : splitType? value = some (type, rest)) :
    EndsType value.strip type rest := by
  obtain ⟨closed, same, left, -, -⟩ := splitType?_eq_some_iff.mp split
  rcases scanType_cases value.strip with ⟨unbroken, scanned⟩ | ⟨before, c, after, first, scanned⟩
  · rw [scanned] at closed same left
    exact .whole unbroken closed same.symm left.symm
  · rw [scanned] at same left
    obtain rfl : before = type := same
    exact .broken first left

/-- White space behind a type, up to the rest. -/
theorem FirstBreak.exists_gap {t before after : Text} {c : CodePoint}
    (first : FirstBreak t before c after) (trimmed : Trimmed t) :
    ∃ gap, t = before ++ gap ++ strip (c :: after) ∧ ∀ d ∈ gap, d.isBlank = true := by
  have last : ∀ d ∈ (c :: after).getLast?, d.isBlank = false :=
    last_of_suffix ⟨before, first.parts.symm⟩ trimmed.last
  have right := stripRight_eq_self (last_of_suffix (stripLeft_suffix _) last)
  have left : indent (c :: after) ++ stripLeft (c :: after) = c :: after :=
    List.takeWhile_append_dropWhile
  refine ⟨indent (c :: after), ?_, indent_blank _⟩
  rw [strip, right, List.append_assoc, left, first.parts]

/-- A type that has been split off has brackets that are closed, no break point and no white space
at its ends. -/
theorem EndsType.facts (ends : EndsType value.strip type rest) :
    Unbroken type ∧ openBrackets 0 type = 0 ∧ Trimmed type ∧ Trimmed rest := by
  cases ends with
  | broken first left =>
    refine ⟨first.unbroken, first.breaks.outside, ⟨?_, first.last⟩, left ▸ trimmed_strip _⟩
    exact head_of_isPrefix ⟨_, first.parts.symm⟩ (trimmed_strip value).head
  | whole unbroken closed all nothing =>
    subst all nothing
    exact ⟨unbroken, closed, trimmed_strip value, trimmed_nil⟩

theorem splitType?_joinParts (split : splitType? value = some (type, rest)) {next : Text}
    (trimmed : Trimmed next) (plain : type.getLast? ≠ some (':' : CodePoint) ∨ next = []) :
    splitType? (joinParts [some type, some next]) = some (type, next) := by
  obtain ⟨-, -, -, nonempty, first⟩ := splitType?_eq_some_iff.mp split
  obtain ⟨unbroken, closed, ends, -⟩ := (endsType_of_split split).facts
  by_cases empty : next = []
  · have alone : joinParts [some type, some next] = type := by
      rw [empty]
      exact joinParts_single nonempty
    have whole := @splitType?_of_unbroken type
    rw [ends.strip_eq] at whole
    rw [alone, empty]
    exact whole unbroken closed nonempty first
  · have text : joinParts [some type, some next] = type ++ (' ' : CodePoint) :: next := by
      rw [joinParts_cons nonempty (by rwa [joinParts_single empty]), joinParts_single empty]
    have written : Trimmed (type ++ (' ' : CodePoint) :: next) :=
      trimmed_append nonempty (by simp) ends.head (last_space empty trimmed.last)
    have breaks : Breaks type ' ' := by
      refine ⟨by decide, closed, ?_⟩
      rw [endsInColon_of_last ends.last, beq_eq_false_iff_ne]
      exact plain.resolve_right empty
    have spaced : strip ((' ' : CodePoint) :: next) = next := by
      rw [strip, stripLeft_space trimmed.head, stripRight_eq_self trimmed.last]
    have again := @splitType?_of_firstBreak (type ++ (' ' : CodePoint) :: next) type next ' '
    rw [written.strip_eq, spaced] at again
    rw [text]
    exact again ⟨rfl, breaks, unbroken⟩ nonempty first

/-- The grammar of a split: none without a type at the start or with a bracket that stays open;
else the type reaches to the first break point or to the end, the rest follows behind white space,
and both are split apart again when they are joined by a space. -/
theorem type_grammar (value : Text) :
    (splitType? value = none ↔
      value.strip = [] ∨ value.strip.head? = some ('$' : CodePoint) ∨
        Unbroken value.strip ∧ openBrackets 0 value.strip ≠ 0) ∧
    ∀ type rest, splitType? value = some (type, rest) →
      (∃ gap, value.strip = type ++ gap ++ rest ∧ ∀ c ∈ gap, c.isBlank = true) ∧
      ((∃ c after, FirstBreak value.strip type c after) ∨
        Unbroken value.strip ∧ type = value.strip ∧ rest = []) ∧
      rest.strip = rest ∧
      ∀ next : Text, next.strip = next →
        type.getLast? ≠ some (':' : CodePoint) ∨ next = [] →
          splitType? (joinParts [some type, some next]) = some (type, next) := by
  refine ⟨splitType?_eq_none_iff, fun type rest split => ?_⟩
  have ends := endsType_of_split split
  refine ⟨?_, ?_, ends.facts.2.2.2.strip_eq, fun next stripped plain => ?_⟩
  · cases ends with
    | broken first left =>
      rw [← left]
      exact first.exists_gap (trimmed_strip value)
    | whole _ _ all nothing => exact ⟨[], by simp [all, nothing], by simp⟩
  · cases ends with
    | broken first left => exact .inl ⟨_, _, first⟩
    | whole unbroken _ all nothing => exact .inr ⟨unbroken, all, nothing⟩
  · exact splitType?_joinParts split (stripped ▸ trimmed_strip next) plain

/-- White space behind the colon of a callable belongs to the type, and so does white space between
brackets. -/
example : splitType? "callable(int $a): int  $b" =
    some (("callable(int $a): int" : Text), ("$b" : Text)) := by
  decide

end DocRepair.Docblock
