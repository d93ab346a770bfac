import DocRepair.Proofs.Docblock.TypeSplit

namespace DocRepair.Docblock

open Text

/-- The count of open brackets after one more code point. -/
def nextDepth (depth : Nat) (c : CodePoint) : Nat :=
  if opensBracket c then depth + 1 else if closesBracket c then depth - 1 else depth

def openBrackets (depth : Nat) (t : Text) : Nat :=
  t.foldl nextDepth depth

/-- White space stands only between brackets, and all brackets are closed in the end. -/
structure IsSeamless (depth : Nat) (t : Text) : Prop where
  closed : openBrackets depth t = 0
  inside : ∀ before c after, t = before ++ c :: after → c.isBlank = true →
    openBrackets depth before ≠ 0

theorem isSeamless_nil_iff {depth : Nat} : IsSeamless depth [] ↔ depth = 0 :=
  ⟨fun seamless => seamless.closed, fun closed => ⟨closed, by simp⟩⟩

theorem isSeamless_cons_iff {depth : Nat} {c : CodePoint} {rest : Text} :
    IsSeamless depth (c :: rest) ↔
      (c.isBlank = true → depth ≠ 0) ∧ IsSeamless (nextDepth depth c) rest := by
  constructor
  · intro ⟨closed, inside⟩
    refine ⟨inside [] c rest rfl, closed, fun before d after parts blank => ?_⟩
    exact inside (c :: before) d after (by rw [parts, List.cons_append]) blank
  · intro ⟨first, closed, inside⟩
    refine ⟨closed, fun before d after parts blank => ?_⟩
    cases before with
    | nil =>
      obtain ⟨rfl, rfl⟩ : c = d ∧ rest = after := by simpa using parts
      exact first blank
    | cons e before =>
      obtain ⟨rfl, later⟩ : c = e ∧ rest = before ++ d :: after := by simpa using parts
      exact inside before d after later blank

/-- A text without white space and without opening brackets. -/
theorem isSeamless_of_solid {t : Text}
    (solid : ∀ c ∈ t, c.isBlank = false ∧ opensBracket c = false) : IsSeamless 0 t := by
  induction t with
  | nil => exact isSeamless_nil_iff.mpr rfl
  | cons c rest ih =>
    obtain ⟨shown, plain⟩ := solid c (by simp)
    have depth : nextDepth 0 c = 0 := by simp [nextDepth, plain]
    rw [isSeamless_cons_iff, depth]
    exact ⟨fun blank => by simp [shown] at blank, ih fun d member => solid d (by simp [member])⟩

theorem not_bracket_of_isBlank {c : CodePoint} (blank : c.isBlank = true) :
    opensBracket c = false ∧ closesBracket c = false := by
  constructor
  all_goals
    rw [← Bool.not_eq_true]
    intro bracket
    simp only [opensBracket, closesBracket, Bool.or_eq_true, beq_iff_eq] at bracket
    rcases bracket with ((rfl | rfl) | rfl) | rfl <;> revert blank <;> decide

/-- One step of the scan, away from colons. -/
theorem scanType_cons (depth : Nat) {c : CodePoint} (other : c ≠ (':' : CodePoint)) (rest : Text) :
    scanType depth false (c :: rest) =
      if c.isBlank = true ∧ depth = 0 then ⟨[], c :: rest, 0⟩
      else (scanType (nextDepth depth c) false rest).cons c := by
  have colon : (c == (':' : CodePoint)) = false := by simpa using other
  by_cases blank : c.isBlank = true
  · obtain ⟨opens, closes⟩ := not_bracket_of_isBlank blank
    by_cases outside : depth = 0
    · simp [scanType, opens, closes, blank, outside]
    · simp [scanType, nextDepth, opens, closes, blank, outside]
  · by_cases opens : opensBracket c = true
    · simp [scanType, nextDepth, opens, blank]
    · by_cases closes : closesBracket c = true
      · by_cases outside : depth = 0
        · simp [scanType, nextDepth, opens, closes, blank, outside, colon]
        · simp [scanType, nextDepth, opens, closes, blank, outside]
      · simp [scanType, nextDepth, opens, closes, blank, colon]

/-- A scan ends behind a text and before white space exactly if the text is seamless. -/
theorem scanType_eq_iff {t : Text} (plain : (':' : CodePoint) ∉ t) (depth : Nat) (next : Text) :
    scanType depth false (t ++ (' ' : CodePoint) :: next) = ⟨t, (' ' : CodePoint) :: next, 0⟩ ↔
      IsSeamless depth t := by
  have space : (' ' : CodePoint).isBlank = true := by decide
  induction t generalizing depth with
  | nil =>
    rw [List.nil_append, scanType_cons depth (by decide), isSeamless_nil_iff]
    by_cases outside : depth = 0
    · simp [outside, space]
    · simp [outside, space, TypeScan.cons]
  | cons c rest ih =>
    have other : c ≠ (':' : CodePoint) := fun same => plain (by simp [same])
    have later := ih (fun member => plain (by simp [member])) (nextDepth depth c)
    rw [List.cons_append, scanType_cons depth other, isSeamless_cons_iff]
    by_cases stops : c.isBlank = true ∧ depth = 0
    · simp [stops]
    · have goes : c.isBlank = true → depth ≠ 0 := fun blank outside => stops ⟨blank, outside⟩
      rw [if_neg stops]
      refine Iff.trans ?_ (later.trans (and_iff_right goes).symm)
      cases scanType (nextDepth depth c) false (rest ++ (' ' : CodePoint) :: next)
      simp [TypeScan.cons]

/-- A scan stops before white space or at the end. -/
theorem head_rest_scanType (depth : Nat) (afterColon : Bool) (t : Text) :
    ∀ c ∈ (scanType depth afterColon t).rest.head?, c.isBlank = true := by
  fun_induction scanType depth afterColon t with
  | case1 => simp
  | case4 depth afterColon c rest opens closes blank outside => simpa using blank
  | case2 depth afterColon c rest opens ih => exact ih
  | case3 depth afterColon c rest opens closes ih => exact ih
  | case5 depth afterColon c rest opens closes blank inside ih => exact ih
  | case6 depth afterColon c rest opens closes blank ih => exact ih

theorem IsSeamless.trimmed {t : Text} (seamless : IsSeamless 0 t) : Trimmed t where
  head := by
    intro c first
    by_contra blank
    obtain ⟨rest, rfl⟩ := List.head?_eq_some_iff.mp first
    exact seamless.inside [] c rest rfl (by simpa using blank) rfl
  last := by
    intro c final
    by_contra blank
    obtain ⟨front, rfl⟩ := List.getLast?_eq_some_iff.mp final
    have shown : c.isBlank = true := by simpa using blank
    obtain ⟨opens, closes⟩ := not_bracket_of_isBlank shown
    have depth : openBrackets 0 (front ++ [c]) = openBrackets 0 front := by
      simp [openBrackets, nextDepth, opens, closes]
    exact seamless.inside front c [] rfl shown (depth ▸ seamless.closed)

theorem splitType?_seamless {type next : Text} (nonempty : type ≠ [])
    (first : type.head? ≠ some ('$' : CodePoint)) (plain : (':' : CodePoint) ∉ type)
    (seamless : IsSeamless 0 type) (more : next ≠ []) (trimmed : Trimmed next) :
    splitType? (type ++ (' ' : CodePoint) :: next) = some (type, next) := by
  have whole : Trimmed (type ++ (' ' : CodePoint) :: next) :=
    trimmed_append nonempty (by simp) seamless.trimmed.head (last_space more trimmed.last)
  have spaced : strip ((' ' : CodePoint) :: next) = next := by
    rw [strip, stripLeft_space trimmed.head, stripRight_eq_self trimmed.last]
  rw [splitType?_eq_some_iff, whole.strip_eq, (scanType_eq_iff plain 0 next).mpr seamless]
  exact ⟨rfl, rfl, spaced, nonempty, first⟩

/-- A type without white space and without opening brackets is split off as a whole. -/
theorem splitType?_solid {type : Text} (nonempty : type ≠ [])
    (first : type.head? ≠ some ('$' : CodePoint))
    (solid : ∀ c ∈ type, c.isBlank = false ∧ opensBracket c = false) :
    splitType? type = some (type, []) := by
  have scanned : ∀ afterColon, scanType 0 afterColon type = ⟨type, [], 0⟩ := by
    clear nonempty first
    induction type with
    | nil => exact fun _ => rfl
    | cons c rest ih =>
      obtain ⟨shown, plain⟩ := solid c (by simp)
      have later := ih fun d member => solid d (by simp [member])
      simp [scanType, shown, plain, later, TypeScan.cons]
  rw [splitType?_eq_some_iff, (isSeamless_of_solid solid).trimmed.strip_eq, scanned]
  exact ⟨rfl, rfl, rfl, nonempty, first⟩

end DocRepair.Docblock
