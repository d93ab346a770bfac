import DocRepair.Text.Lines

namespace DocRepair.Text

@[simp] theorem ofChar_inj {c d : Char} : CodePoint.ofChar c = CodePoint.ofChar d ↔ c = d :=
  ⟨fun same => Char.toNat_inj.mp (congrArg CodePoint.val same), congrArg _⟩

@[simp] theorem ofString_inj {s t : String} : ofString s = ofString t ↔ s = t := by
  rw [ofString, ofString, List.map_inj_right fun _ _ => ofChar_inj.mp, String.toList_inj]

@[simp] theorem ofString_eq_nil_iff {s : String} : ofString s = [] ↔ s = "" := by
  simp [ofString]

theorem mem_of_isOneOf {c : CodePoint} {set : String} (held : c.isOneOf set = true) :
    c ∈ ofString set := by
  obtain ⟨d, member, same⟩ := List.any_eq_true.mp held
  obtain rfl : CodePoint.ofChar d = c := by
    cases c
    simpa [CodePoint.ofChar] using same
  exact List.mem_map_of_mem member

@[simp] theorem ofChar_mem_ofString {c : Char} {s : String} :
    CodePoint.ofChar c ∈ ofString s ↔ c ∈ s.toList := by
  simp [ofString]

theorem join_eq_intercalate (separator : Text) (pieces : List Text) :
    join separator pieces = separator.intercalate pieces := by
  fun_induction join separator pieces with
  | case1 => simp
  | case2 piece => simp
  | case3 piece next rest ih => simp [ih, List.intercalate_cons_cons]

theorem consFirst_eq_modifyHead {pieces : List Text} (c : CodePoint) (nonempty : pieces ≠ []) :
    consFirst c pieces = pieces.modifyHead (c :: ·) := by
  cases pieces with
  | nil => exact absurd rfl nonempty
  | cons first rest => rfl

theorem splitAt_eq_splitOn (separator : CodePoint) (t : Text) :
    splitAt separator t = t.splitOn separator := by
  induction t with
  | nil => simp [splitAt]
  | cons c rest ih =>
    simp only [splitAt, ih, List.splitOn_cons_eq_if_modifyHead, beq_iff_eq]
    rw [consFirst_eq_modifyHead c (List.splitOn_ne_nil separator rest)]

@[simp] theorem splitAt_ne_nil (separator : CodePoint) (t : Text) :
    splitAt separator t ≠ [] := by
  simp [splitAt_eq_splitOn]

@[simp] theorem join_splitAt (separator : CodePoint) (t : Text) :
    join [separator] (splitAt separator t) = t := by
  simp [join_eq_intercalate, splitAt_eq_splitOn]

theorem splitAt_join {separator : CodePoint} {pieces : List Text} (nonempty : pieces ≠ [])
    (free : ∀ piece ∈ pieces, separator ∉ piece) :
    splitAt separator (join [separator] pieces) = pieces := by
  rw [join_eq_intercalate, splitAt_eq_splitOn, List.splitOn_intercalate separator free nonempty]

theorem splitAt_of_not_mem {separator : CodePoint} {t : Text} (free : separator ∉ t) :
    splitAt separator t = [t] := by
  rw [splitAt_eq_splitOn, List.splitOn_eq_singleton free]

theorem splitAt_append_cons (separator : CodePoint) (s t : Text) :
    splitAt separator (s ++ separator :: t) = splitAt separator s ++ splitAt separator t := by
  simp only [splitAt_eq_splitOn, List.splitOn_append_cons_self]

theorem not_mem_of_mem_splitAt {separator : CodePoint} {t piece : Text}
    (member : piece ∈ splitAt separator t) : separator ∉ piece := by
  induction t generalizing piece with
  | nil => simp_all [splitAt]
  | cons c rest ih =>
    simp only [splitAt] at member
    split at member
    · rcases List.mem_cons.mp member with same | later
      · simp [same]
      · exact ih later
    · rename_i other
      obtain ⟨first, others, pieces⟩ :=
        List.exists_cons_of_ne_nil (splitAt_ne_nil separator rest)
      rw [pieces, consFirst] at member
      rcases List.mem_cons.mp member with same | later
      · have free : separator ∉ first := ih (by simp [pieces])
        simp [same, free, Ne.symm other]
      · exact ih (by simp [pieces, later])

theorem isInfix_join_of_mem (separator : Text) {pieces : List Text} {piece : Text}
    (member : piece ∈ pieces) : piece <:+: join separator pieces := by
  fun_induction join separator pieces with
  | case1 => simp at member
  | case2 only => simp [List.mem_singleton.mp member]
  | case3 first next rest ih =>
    rcases List.mem_cons.mp member with rfl | later
    · exact ⟨[], separator ++ join separator (next :: rest), by simp⟩
    · exact (ih later).trans (List.suffix_append _ _).isInfix

theorem infix_of_mem_splitAt (separator : CodePoint) {t piece : Text}
    (member : piece ∈ splitAt separator t) : piece <:+: t := by
  simpa using isInfix_join_of_mem [separator] member

theorem join_cons (separator piece : Text) {rest : List Text} (nonempty : rest ≠ []) :
    join separator (piece :: rest) = piece ++ separator ++ join separator rest := by
  cases rest with
  | nil => exact absurd rfl nonempty
  | cons next others => rfl

theorem join_append (separator : Text) {pieces others : List Text} (nonempty : pieces ≠ [])
    (nonempty' : others ≠ []) :
    join separator (pieces ++ others) =
      join separator pieces ++ separator ++ join separator others := by
  induction pieces with
  | nil => exact absurd rfl nonempty
  | cons piece rest ih =>
    cases rest with
    | nil => simp [join_cons separator piece nonempty', join]
    | cons next rest =>
      rw [List.cons_append, join_cons separator piece (by simp), ih (by simp),
        join_cons separator piece (by simp)]
      simp

/-- Pieces in front of others, every one of them with a separator behind it. -/
theorem join_append_flatMap (separator : Text) (pieces : List Text) {others : List Text}
    (nonempty : others ≠ []) :
    join separator (pieces ++ others) =
      pieces.flatMap (· ++ separator) ++ join separator others := by
  induction pieces with
  | nil => rfl
  | cons piece rest ih =>
    rw [List.cons_append, join_cons _ _ (by simp [nonempty]), ih]
    simp

theorem lines_unlines {pieces : List Text} (nonempty : pieces ≠ []) :
    lines (unlines pieces) = pieces.flatMap lines := by
  induction pieces with
  | nil => exact absurd rfl nonempty
  | cons piece rest ih =>
    cases rest with
    | nil => simp [unlines, join]
    | cons next rest =>
      have cut : unlines (piece :: next :: rest) =
          piece ++ ('\n' : CodePoint) :: unlines (next :: rest) := by
        simp [unlines, join, newline]
      rw [cut, lines, splitAt_append_cons, ← lines, ← lines, ih (by simp)]
      rfl

theorem lines_of_not_mem {t : Text} (free : ('\n' : CodePoint) ∉ t) : lines t = [t] :=
  splitAt_of_not_mem free

theorem lines_unlines_of_free {pieces : List Text} (nonempty : pieces ≠ [])
    (free : ∀ piece ∈ pieces, ('\n' : CodePoint) ∉ piece) : lines (unlines pieces) = pieces :=
  splitAt_join nonempty free

/-- The first occurrence of a code point is the one that none comes before. -/
theorem cut?_eq_some_iff {t before after : Text} {c : CodePoint} :
    cut? t [c] = some (before, after) ↔ t = before ++ c :: after ∧ c ∉ before := by
  induction t generalizing before with
  | nil => simp [cut?]
  | cons d rest ih =>
    by_cases same : c = d
    · subst same
      constructor
      · intro cut
        obtain ⟨rfl, rfl⟩ : [] = before ∧ rest = after := by simpa [cut?] using cut
        simp
      · rintro ⟨parts, first⟩
        cases before with
        | nil =>
          obtain rfl : rest = after := by simpa using parts
          simp [cut?]
        | cons e more =>
          obtain ⟨rfl, _⟩ : c = e ∧ rest = more ++ c :: after := by simpa using parts
          simp at first
    · have step : cut? (d :: rest) [c] =
          (cut? rest [c]).map fun parts => (d :: parts.1, parts.2) := by
        rw [cut?, if_neg (by simp [same])]
      rw [step, Option.map_eq_some_iff]
      constructor
      · rintro ⟨⟨front, back⟩, cut, parts⟩
        obtain ⟨rfl, rfl⟩ : d :: front = before ∧ back = after := by simpa using parts
        obtain ⟨rfl, first⟩ := ih.mp cut
        exact ⟨rfl, by simp [same, first]⟩
      · rintro ⟨parts, first⟩
        cases before with
        | nil =>
          obtain ⟨rfl, _⟩ : d = c ∧ rest = after := by simpa using parts
          exact absurd rfl same
        | cons e more =>
          obtain ⟨rfl, rfl⟩ : d = e ∧ rest = more ++ c :: after := by simpa using parts
          exact ⟨(more, after), ih.mpr ⟨rfl, fun member => first (by simp [member])⟩, rfl⟩

theorem cutLast?_eq_none {t : Text} {c : CodePoint} (more : Text) (missing : c ∉ t) :
    cutLast? t (c :: more) = none := by
  induction t with
  | nil => simp [cutLast?]
  | cons d rest ih =>
    have other : c ≠ d := fun same => missing (by simp [same])
    simp [cutLast?, ih fun member => missing (by simp [member]), other]

theorem cutLast?_append (s : Text) {t part before after : Text}
    (cut : cutLast? t part = some (before, after)) :
    cutLast? (s ++ t) part = some (s ++ before, after) := by
  induction s with
  | nil => exact cut
  | cons c rest ih => simp [cutLast?, ih]

/-- The last occurrence of a code point is the one that none follows. -/
theorem cutLast?_eq_some_iff {t before after : Text} {c : CodePoint} :
    cutLast? t [c] = some (before, after) ↔ t = before ++ c :: after ∧ c ∉ after := by
  have absent : ∀ {t : Text}, cutLast? t [c] = none → c ∉ t := by
    intro t
    induction t with
    | nil => simp
    | cons d rest ih =>
      intro uncut
      cases later : cutLast? rest [c] with
      | some parts => simp [cutLast?, later] at uncut
      | none =>
        have other : c ≠ d := by simpa [cutLast?, later] using uncut
        simp [other, ih later]
  constructor
  · intro cut
    induction t generalizing before with
    | nil => simp [cutLast?] at cut
    | cons d rest ih =>
      cases later : cutLast? rest [c] with
      | some parts =>
        obtain ⟨front, back⟩ := parts
        obtain ⟨rfl, rfl⟩ : d :: front = before ∧ back = after := by
          simpa [cutLast?, later] using cut
        obtain ⟨rfl, last⟩ := ih later
        exact ⟨rfl, last⟩
      | none =>
        obtain ⟨rfl, rfl, rfl⟩ : c = d ∧ [] = before ∧ rest = after := by
          simpa [cutLast?, later] using cut
        exact ⟨rfl, absent later⟩
  · rintro ⟨rfl, last⟩
    have here : cutLast? (c :: after) [c] = some ([], after) := by
      simp [cutLast?, cutLast?_eq_none [] last]
    simpa using cutLast?_append before here

/-! ### Replacing -/

theorem substitute_of_not_mem {old : CodePoint} {t : Text} (new : Text) (absent : old ∉ t) :
    substitute old new t = t := by
  induction t with
  | nil => rfl
  | cons c rest ih =>
    have other : c ≠ old := fun same => absent (by simp [same])
    have later := ih fun member => absent (by simp [member])
    rw [substitute] at later ⊢
    rw [List.flatMap_cons, if_neg other, later, List.singleton_append]

theorem replaceFrom_drop (old new : Text) (skip : Nat) (t : Text) :
    replaceFrom old new skip t = replace old new (t.drop skip) := by
  induction skip generalizing t with
  | zero => rfl
  | succ skip ih =>
    cases t with
    | nil => rfl
    | cons c rest => rw [replaceFrom, ih, List.drop_succ_cons]

theorem replace_append_self {old : Text} (new : Text) (nonempty : old ≠ []) (t : Text) :
    replace old new (old ++ t) = new ++ replace old new t := by
  obtain ⟨c, rest, rfl⟩ := List.exists_cons_of_ne_nil nonempty
  have here : (c :: rest).isPrefixOf (c :: (rest ++ t)) = true := by simp
  rw [List.cons_append, replace, replaceFrom, if_pos here, replaceFrom_drop, List.length_cons,
    Nat.add_sub_cancel, List.drop_left]

theorem replace_cons {old : Text} (new : Text) {c : CodePoint} {t : Text}
    (absent : ¬old <+: c :: t) : replace old new (c :: t) = c :: replace old new t := by
  rw [replace, replaceFrom, if_neg (by simpa using absent)]
  rfl

/-! ### Pairs of code points -/

@[simp] theorem splitAtPair_ne_nil (first second : CodePoint) (t : Text) :
    splitAtPair first second t ≠ [] := by
  fun_induction splitAtPair first second t with
  | case1 => simp
  | case2 c => simp
  | case3 c d rest same ih => simp
  | case4 c d rest other ih =>
    obtain ⟨piece, others, pieces⟩ := List.exists_cons_of_ne_nil ih
    simp [pieces, consFirst]

private theorem join_consFirst {separator : Text} {pieces : List Text} (c : CodePoint)
    (nonempty : pieces ≠ []) :
    join separator (consFirst c pieces) = c :: join separator pieces := by
  cases pieces with
  | nil => exact absurd rfl nonempty
  | cons piece rest => cases rest <;> simp [consFirst, join]

@[simp] theorem join_splitAtPair (first second : CodePoint) (t : Text) :
    join [first, second] (splitAtPair first second t) = t := by
  fun_induction splitAtPair first second t with
  | case1 => rfl
  | case2 c => rfl
  | case3 c d rest same ih =>
    rw [join_cons _ _ (by simp), ih, same.1, same.2]
    rfl
  | case4 c d rest other ih => rw [join_consFirst c (by simp), ih]

private theorem consFirst_append {pieces : List Text} (c : CodePoint) (nonempty : pieces ≠ [])
    (others : List Text) : consFirst c (pieces ++ others) = consFirst c pieces ++ others := by
  cases pieces with
  | nil => exact absurd rfl nonempty
  | cons piece rest => rfl

theorem splitAtPair_append {first second : CodePoint} (distinct : first ≠ second) (s t : Text) :
    splitAtPair first second (s ++ first :: second :: t) =
      splitAtPair first second s ++ splitAtPair first second t := by
  fun_induction splitAtPair first second s with
  | case1 => simp [splitAtPair]
  | case2 c => simp [splitAtPair, distinct, consFirst]
  | case3 c d rest same ih => simp [splitAtPair, same, ih]
  | case4 c d rest other ih =>
    rw [List.cons_append] at ih
    rw [List.cons_append, List.cons_append, splitAtPair, if_neg other, ih,
      consFirst_append c (by simp)]

theorem splitAtPair_of_not_mem {first second : CodePoint} {t : Text}
    (free : second ∉ t) : splitAtPair first second t = [t] := by
  fun_induction splitAtPair first second t with
  | case1 => rfl
  | case2 c => rfl
  | case3 c d rest same ih => exact absurd (by simp [same.2]) free
  | case4 c d rest other ih =>
    rw [ih fun member => free (List.mem_cons_of_mem c member)]
    rfl

end DocRepair.Text
