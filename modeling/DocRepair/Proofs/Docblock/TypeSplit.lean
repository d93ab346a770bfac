import DocRepair.Docblock.TypeSplit
import DocRepair.Proofs.Text.Trimmed

namespace DocRepair.Docblock

open Text

theorem scanType_append (depth : Nat) (afterColon : Bool) (t : Text) :
    (scanType depth afterColon t).type ++ (scanType depth afterColon t).rest = t := by
  fun_induction scanType depth afterColon t <;> simp_all [TypeScan.cons]

/-- White space that ends a type ends it there again, whatever follows. -/
theorem scanType_again {depth : Nat} {afterColon : Bool} {t : Text}
    (ended : (scanType depth afterColon t).rest ≠ []) (next : Text) :
    scanType depth afterColon ((scanType depth afterColon t).type ++ (' ' : CodePoint) :: next) =
      ⟨(scanType depth afterColon t).type, ' ' :: next, 0⟩ := by
  fun_induction scanType depth afterColon t with
  | case1 => exact absurd rfl ended
  | case2 depth afterColon c rest opens ih =>
    have later := ih ended
    simp only [TypeScan.cons, List.cons_append] at later ⊢
    rw [scanType, if_pos opens, later]
    rfl
  | case3 depth afterColon c rest opens closes ih =>
    have later := ih ended
    simp only [TypeScan.cons, List.cons_append] at later ⊢
    rw [scanType, if_neg opens, if_pos closes, later]
    rfl
  | case4 depth afterColon c rest opens closes blank outside =>
    obtain ⟨rfl, rfl⟩ : depth = 0 ∧ afterColon = false := by simpa using outside
    rfl
  | case5 depth afterColon c rest opens closes blank inside ih =>
    have later := ih ended
    simp only [TypeScan.cons, List.cons_append] at later ⊢
    rw [scanType, if_neg opens, if_neg closes, if_pos blank, if_neg inside, later]
    rfl
  | case6 depth afterColon c rest opens closes blank ih =>
    have later := ih ended
    simp only [TypeScan.cons, List.cons_append] at later ⊢
    rw [scanType, if_neg opens, if_neg closes, if_neg blank, later]
    rfl

/-- What a split gives: the type is not empty and not a variable, and with the rest, stripped, it
makes up the value. -/
theorem splitType?_eq_some_iff {value type rest : Text} :
    splitType? value = some (type, rest) ↔
      (scanType 0 false value.strip).depth = 0 ∧ (scanType 0 false value.strip).type = type ∧
        (scanType 0 false value.strip).rest.strip = rest ∧ type ≠ [] ∧
        type.head? ≠ some ('$' : CodePoint) := by
  simp only [splitType?]
  split
  · rename_i unbalanced
    simp only [reduceCtorEq, false_iff, not_and]
    intro balanced
    simp [balanced] at unbalanced
  · rename_i balanced
    have closed : (scanType 0 false value.strip).depth = 0 := by simpa using balanced
    split
    · rename_i refused
      simp only [reduceCtorEq, closed, true_and, false_iff, not_and]
      rintro rfl _ nonempty plain
      simp [nonempty, plain] at refused
    · rename_i accepted
      simp only [Option.some.injEq, Prod.mk.injEq, closed, true_and]
      constructor
      · rintro ⟨rfl, rfl⟩
        simpa using accepted
      · rintro ⟨rfl, rfl, _⟩
        exact ⟨rfl, rfl⟩

variable {value type rest : Text}

theorem splitType?_type_isPrefix (split : splitType? value = some (type, rest)) :
    type <+: value.strip := by
  obtain ⟨_, rfl, _⟩ := splitType?_eq_some_iff.mp split
  exact ⟨_, scanType_append 0 false value.strip⟩

theorem splitType?_rest_isInfix (split : splitType? value = some (type, rest)) :
    rest <:+: value.strip := by
  obtain ⟨_, rfl, rfl, _⟩ := splitType?_eq_some_iff.mp split
  exact (strip_isInfix _).trans ⟨_, [], by rw [List.append_nil, scanType_append]⟩

/-- A value without a rest is its type. -/
theorem splitType?_alone (split : splitType? value = some (type, [])) : type = value.strip := by
  obtain ⟨_, rfl, empty, _⟩ := splitType?_eq_some_iff.mp split
  have whole := scanType_append 0 false value.strip
  have nothing : (scanType 0 false value.strip).rest = [] := by
    by_contra some
    -- The last code point of the value is not white space, so the rest does not strip to nothing.
    have last := last_of_suffix ⟨_, whole⟩ (trimmed_strip value).last
    have stripped := stripRight_eq_self (last_of_suffix (stripLeft_suffix _) last)
    rw [strip, stripped] at empty
    exact stripLeft_ne_nil some last empty
  simpa [nothing] using whole

theorem splitType?_write (split : splitType? value = some (type, rest)) (more : rest ≠ [])
    {next : Text} (nonempty : next ≠ []) (trimmed : Trimmed next) :
    Trimmed (type ++ (' ' : CodePoint) :: next) ∧
      splitType? (type ++ (' ' : CodePoint) :: next) = some (type, next) := by
  have front := splitType?_type_isPrefix split
  obtain ⟨_, same, stripped, proper, plain⟩ := splitType?_eq_some_iff.mp split
  have ended : (scanType 0 false value.strip).rest ≠ [] := by
    intro nothing
    rw [nothing] at stripped
    exact more stripped.symm
  have written : Trimmed (type ++ (' ' : CodePoint) :: next) :=
    trimmed_append proper (by simp) (head_of_isPrefix front (trimmed_strip value).head)
      (last_space nonempty trimmed.last)
  refine ⟨written, splitType?_eq_some_iff.mpr ?_⟩
  have again := scanType_again ended next
  rw [same] at again
  have spaced : strip ((' ' : CodePoint) :: next) = next := by
    rw [strip, stripLeft_space trimmed.head, stripRight_eq_self trimmed.last]
  rw [written.strip_eq, again]
  exact ⟨rfl, rfl, spaced, proper, plain⟩

end DocRepair.Docblock
