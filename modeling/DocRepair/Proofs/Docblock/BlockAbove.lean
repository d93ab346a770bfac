import DocRepair.Proofs.Docblock.FoundBlock

/-!
Where the block above a line begins and ends.

The last line of the block is the one directly above and closes it. If that line opens a block too,
it is the block; otherwise the block goes up to the nearest opening line, past lines that are blank
or begin with a star. These indices say all there is to say about the scan: they are unique, and no
line outside them is looked at.
-/

namespace DocRepair.Docblock

open Text

/-- The line at an index, if there is one, begins a block. -/
def OpensAt (lines : List Text) (index : Nat) : Prop :=
  ∃ line ∈ lines[index]?, line.strip.startsWith opener = true

/-- The line at an index, if there is one, ends a block. -/
def ClosesAt (lines : List Text) (index : Nat) : Prop :=
  ∃ line ∈ lines[index]?, line.strip.endsWith closer = true

/-- The lines between two indices, both included, are those of one block. -/
@[mk_iff]
structure Encloses (lines : List Text) (first last : Nat) : Prop where
  closes : ClosesAt lines last
  opens : (OpensAt lines last ∧ first = last) ∨
    (¬OpensAt lines last ∧ first < last ∧ OpensAt lines first ∧
      ∀ index, first < index → index < last → ∀ line ∈ lines[index]?, IsInner line)

/-- The lines between two indices are the block directly above an anchor inside the file. -/
structure EndsAbove (lines : List Text) (anchor : Int) (first last : Nat) : Prop where
  positive : 1 ≤ anchor
  inside : anchor < lines.length
  above : (last : Int) = anchor - 1
  encloses : Encloses lines first last

/-- The lines between two indices, both included. -/
def linesBetween (lines : List Text) (first last : Nat) : List Text :=
  (lines.drop first).take (last + 1 - first)

section

variable {lines others : List Text} {first last : Nat}

theorem Encloses.le (encloses : Encloses lines first last) : first ≤ last := by
  rcases encloses.opens with ⟨_, same⟩ | ⟨_, before, _⟩
  · exact Nat.le_of_eq same
  · exact Nat.le_of_lt before

/-- Only the lines between the indices count, wherever they stand. -/
theorem encloses_shift (offset : Nat) (same : ∀ index, first ≤ index → index ≤ last →
      others[offset + index]? = lines[index]?) :
    Encloses others (offset + first) (offset + last) ↔ Encloses lines first last := by
  by_cases order : first ≤ last
  · have inner : (∀ index, offset + first < index → index < offset + last →
          ∀ line ∈ others[index]?, IsInner line) ↔
        ∀ index, first < index → index < last → ∀ line ∈ lines[index]?, IsInner line := by
      constructor
      · intro inner index above below
        rw [← same index (by omega) (by omega)]
        exact inner _ (by omega) (by omega)
      · intro inner index above below
        obtain ⟨deeper, rfl⟩ := Nat.exists_eq_add_of_le (show offset ≤ index by omega)
        rw [same deeper (by omega) (by omega)]
        exact inner deeper (by omega) (by omega)
    simp only [encloses_iff, ClosesAt, OpensAt, same first (Nat.le_refl _) order,
      same last order (Nat.le_refl _), inner, Nat.add_lt_add_iff_left, Nat.add_left_cancel_iff]
  · constructor
    · intro encloses
      exact absurd (Nat.le_of_add_le_add_left encloses.le) order
    · intro encloses
      exact absurd encloses.le order

theorem Encloses.congr (encloses : Encloses lines first last)
    (same : ∀ index, first ≤ index → index ≤ last → others[index]? = lines[index]?) :
    Encloses others first last := by
  have shifted : Encloses others (0 + first) (0 + last) :=
    (encloses_shift 0 (by simpa using same)).mpr encloses
  simpa using shifted

/-- Indices in the middle part of a file are indices of that part. -/
theorem encloses_append (front : List Text) {span : List Text} (back : List Text)
    (within : last < span.length) :
    Encloses (front ++ span ++ back) (front.length + first) (front.length + last) ↔
      Encloses span first last := by
  apply encloses_shift
  intro index _ below
  rw [List.append_assoc, List.getElem?_append_right (by omega), Nat.add_sub_cancel_left,
    List.getElem?_append_left (by omega)]

end

/-- Lines make a block if its first and its last index enclose it. -/
theorem blockSpan_iff {span : List Text} {last : Nat} (count : span.length = last + 1) :
    BlockSpan span ↔ Encloses span 0 last := by
  constructor
  · intro block
    cases block with
    | @single line opens closes =>
      obtain rfl : last = 0 := by simpa using count.symm
      exact ⟨⟨line, rfl, closes⟩, .inl ⟨⟨line, rfl, opens⟩, rfl⟩⟩
    | @several top bottom inner opens between closes separate =>
      obtain rfl : last = inner.length + 1 := by simpa using count.symm
      have final : (top :: (inner ++ [bottom]))[inner.length + 1]? = some bottom := by simp
      refine ⟨⟨bottom, final, closes⟩, .inr ⟨?_, by omega, ⟨top, rfl, opens⟩, ?_⟩⟩
      · rintro ⟨line, here, opened⟩
        obtain rfl : bottom = line := by simpa [final] using here
        simp [separate] at opened
      · intro index above below line here
        obtain ⟨deeper, rfl⟩ : ∃ deeper, index = deeper + 1 := ⟨index - 1, by omega⟩
        rw [List.getElem?_cons_succ, List.getElem?_append_left (by omega)] at here
        exact between line (List.mem_of_getElem? here)
  · rintro ⟨⟨bottom, final, closes⟩, one | several⟩
    · obtain ⟨⟨line, here, opens⟩, rfl⟩ := one
      obtain ⟨only, rfl⟩ := List.length_eq_one_iff.mp count
      obtain rfl : only = bottom := by simpa using final
      obtain rfl : only = line := by simpa using here
      exact .single opens closes
    · obtain ⟨separate, order, ⟨top, here, opens⟩, inner⟩ := several
      -- The list is cut at both ends: the first line, the lines between, the last line.
      cases span with
      | nil => cases here
      | cons first rest =>
        obtain rfl : first = top := by simpa using here
        obtain ⟨middle, ending, rfl⟩ := List.eq_nil_or_concat' rest |>.resolve_left fun empty => by
          simp [empty] at count
          omega
        obtain rfl : last = middle.length + 1 := by simpa using count.symm
        obtain rfl : ending = bottom := by simpa using final
        refine .several opens ?_ closes ?_
        · intro line member
          obtain ⟨index, bound, rfl⟩ := List.getElem_of_mem member
          refine inner (index + 1) (by omega) (by omega) _ ?_
          rw [Option.mem_def, List.getElem?_cons_succ, List.getElem?_append_left bound,
            List.getElem?_eq_getElem bound]
        · rw [← Bool.not_eq_true]
          exact fun opened => separate ⟨ending, final, opened⟩

/-! ### The scan and its indices -/

section

variable {lines : List Text} {anchor : Int} {first last : Nat}

theorem linesBetween_append (front : List Text) {span : List Text} (back : List Text)
    (nonempty : span ≠ []) :
    linesBetween (front ++ span ++ back) front.length (front.length + span.length - 1) = span := by
  have some := List.length_pos_iff.mpr nonempty
  have count : front.length + span.length - 1 + 1 - front.length = span.length := by omega
  rw [linesBetween, count, List.append_assoc, List.drop_left, List.take_left]

/-- The lines between two indices stand between those before and those after them. -/
theorem append_linesBetween (order : first ≤ last) :
    lines.take first ++ linesBetween lines first last ++ lines.drop (last + 1) = lines := by
  have after : lines.drop (last + 1) = (lines.drop first).drop (last + 1 - first) := by
    rw [List.drop_drop]
    congr 1
    omega
  rw [linesBetween, after, List.append_assoc, List.take_append_drop, List.take_append_drop]

theorem length_linesBetween (order : first ≤ last) (inside : last < lines.length) :
    (linesBetween lines first last).length = last - first + 1 := by
  rw [linesBetween, List.length_take, List.length_drop]
  omega

theorem Encloses.blockSpan (encloses : Encloses lines first last) (inside : last < lines.length) :
    BlockSpan (linesBetween lines first last) := by
  have order := encloses.le
  have count := length_linesBetween order inside
  have start : (lines.take first).length = first := by
    rw [List.length_take]
    omega
  have shifted : Encloses (lines.take first ++ linesBetween lines first last ++
      lines.drop (last + 1)) ((lines.take first).length + 0)
      ((lines.take first).length + (last - first)) := by
    rwa [append_linesBetween order, start, Nat.add_zero, Nat.add_sub_cancel' order]
  exact (blockSpan_iff count).mpr ((encloses_append _ _ (by omega)).mp shifted)

/-- The scan finds the block above an anchor, and nothing else. -/
theorem locate?_eq_some_iff {block : Location} :
    locate? lines anchor = some block ↔
      EndsAbove lines anchor block.firstLine block.lastLine ∧
        block.text = unlines (linesBetween lines block.firstLine block.lastLine) := by
  constructor
  · intro located
    obtain ⟨index, rfl, found⟩ : ∃ index : Nat, anchor = index ∧
        locateAt? lines index = some block := by
      cases anchor with
      | ofNat index => exact ⟨index, rfl, located⟩
      | negSucc => cases located
    obtain ⟨front, span, back, rfl, more, rfl, isBlock, rfl⟩ := exists_blockSpan found
    have nonempty : span ≠ [] := by
      rintro rfl
      cases isBlock
    have some := List.length_pos_iff.mpr nonempty
    have behind := List.length_pos_iff.mpr more
    have enclosed : Encloses span 0 (span.length - 1) :=
      (blockSpan_iff (Nat.sub_add_cancel some).symm).mp isBlock
    have encloses := (encloses_append front back (by omega)).mpr enclosed
    rw [Nat.add_zero, ← Nat.add_sub_assoc some] at encloses
    refine ⟨⟨by omega, ?_, ?_, encloses⟩, ?_⟩
    · simp only [List.length_append]
      omega
    · show ((front.length + span.length - 1 : Nat) : Int) = _
      omega
    · rw [linesBetween_append front back nonempty]
  · rintro ⟨⟨positive, inside, above, encloses⟩, text⟩
    obtain ⟨t, first, last⟩ := block
    simp only at above encloses text
    have order := encloses.le
    have bound : last + 1 < lines.length := by omega
    have more : lines.drop (last + 1) ≠ [] := by simpa using bound
    have count := length_linesBetween order (Nat.lt_of_succ_lt bound)
    have start : (lines.take first).length = first := by
      rw [List.length_take]
      omega
    have found := locateAt?_append (lines.take first)
      (encloses.blockSpan (Nat.lt_of_succ_lt bound)) more
    have finish : first + (last - first + 1) = last + 1 := by omega
    rw [append_linesBetween order, start, count, finish, Nat.add_sub_cancel, ← text] at found
    obtain rfl : anchor = (last + 1 : Nat) := by omega
    exact found

theorem EndsAbove.located (ends : EndsAbove lines anchor first last) :
    locate? lines anchor = some ⟨unlines (linesBetween lines first last), first, last⟩ :=
  locate?_eq_some_iff.mpr ⟨ends, rfl⟩

theorem EndsAbove.unique {first' last' : Nat} (ends : EndsAbove lines anchor first last)
    (ends' : EndsAbove lines anchor first' last') : first = first' ∧ last = last' := by
  obtain ⟨-, same, same'⟩ :=
    Location.mk.inj (Option.some.inj (ends.located.symm.trans ends'.located))
  exact ⟨same, same'⟩

theorem linesBetween_congr {others : List Text} (order : first ≤ last)
    (same : ∀ index, first ≤ index → index ≤ last → others[index]? = lines[index]?) :
    linesBetween others first last = linesBetween lines first last := by
  apply List.ext_getElem?
  intro index
  simp only [linesBetween, List.getElem?_take, List.getElem?_drop]
  split
  · exact same _ (by omega) (by omega)
  · rfl

/-- No line before the block and none from the anchor on is looked at. -/
theorem locate?_of_same {block : Location} {others : List Text}
    (located : locate? lines anchor = some block) (length : others.length = lines.length)
    (same : ∀ index, block.firstLine ≤ index → index ≤ block.lastLine →
      others[index]? = lines[index]?) :
    locate? others anchor = some block := by
  obtain ⟨⟨positive, inside, above, encloses⟩, text⟩ := locate?_eq_some_iff.mp located
  refine locate?_eq_some_iff.mpr ⟨⟨positive, ?_, above, encloses.congr same⟩, ?_⟩
  · rwa [length]
  · rwa [linesBetween_congr encloses.le same]

end

/-- The block that is found above an anchor is exactly the one that ends there. Its indices are
unique, its text is made of its lines, and what stands before it or from the anchor on can be
replaced line by line without changing the answer. -/
theorem block_above_exact (lines : List Text) (anchor : Int) :
    (∀ first last, (∃ text, locate? lines anchor = some ⟨text, first, last⟩) ↔
      EndsAbove lines anchor first last) ∧
    (∀ first last first' last', EndsAbove lines anchor first last →
      EndsAbove lines anchor first' last' → first = first' ∧ last = last') ∧
    ∀ block, locate? lines anchor = some block →
      block.text = unlines (linesBetween lines block.firstLine block.lastLine) ∧
      ∀ others : List Text, others.length = lines.length →
        (∀ index, block.firstLine ≤ index → index < anchor → others[index]? = lines[index]?) →
        locate? others anchor = some block := by
  refine ⟨fun first last => ⟨?_, ?_⟩, fun _ _ _ _ ends ends' => ends.unique ends', ?_⟩
  · rintro ⟨text, located⟩
    exact (locate?_eq_some_iff.mp located).1
  · exact fun ends => ⟨_, ends.located⟩
  · intro block located
    obtain ⟨ends, text⟩ := locate?_eq_some_iff.mp located
    refine ⟨text, fun others length same => locate?_of_same located length ?_⟩
    intro index above below
    have finish := ends.above
    exact same index above (by omega)

/-- A block with a blank line and text before its closing mark is found alike between other
lines. -/
theorem block_above_exact_sample :
    let lines : List Text := ["<?php", "  /**", "", "   * @return A */", "f();"]
    let others : List Text := ["*/", "  /**", "", "   * @return A */", "/** */"]
    EndsAbove lines 4 1 3 ∧ locate? others 4 = some ⟨"  /**\n\n   * @return A */", 1, 3⟩ := by
  intro lines others
  have located : locate? lines 4 = some ⟨"  /**\n\n   * @return A */", 1, 3⟩ := by decide
  have same : ∀ index : Nat, 1 ≤ index → (index : Int) < 4 → others[index]? = lines[index]? := by
    intro index above below
    obtain rfl | rfl | rfl : index = 1 ∨ index = 2 ∨ index = 3 := by omega
    all_goals rfl
  obtain ⟨ends, -, found⟩ := block_above_exact lines 4
  exact ⟨(ends 1 3).mp ⟨_, located⟩, (found _ located).2 others rfl same⟩

end DocRepair.Docblock
