import DocRepair.Proofs.Fixer.AddedTag
import DocRepair.Proofs.Fixer.AnnotationFrame

/-!
Adding a tag to a block of several lines adds one entry, and nothing else that is read changes.

What is read from a block are the lines between its marks that say something. Blank lines and the
white space around the text do not count, so it does not matter how far the marks are taken off; a
tag that is added is one more such line, the last.
-/

namespace DocRepair.Docblock

open Text

/-! ### Lines that say something -/

/-- The lines of a text without white space and stars, those apart of which nothing is left. -/
def spoken (t : Text) : List Text :=
  (t.lines.map dropStar).filter (!·.isEmpty)

theorem spoken_of_free {line : Text} (free : ('\n' : CodePoint) ∉ line) :
    spoken line = [dropStar line].filter (!·.isEmpty) := by
  rw [spoken, lines_of_not_mem free, List.map_singleton]

theorem spoken_append_cons (s t : Text) :
    spoken (s ++ ('\n' : CodePoint) :: t) = spoken s ++ spoken t := by
  simp only [spoken, lines, splitAt_append_cons, List.map_append, List.filter_append]

theorem spoken_unlines (ls : List Text) : spoken (unlines ls) = ls.flatMap spoken := by
  induction ls with
  | nil => rfl
  | cons line rest ih =>
    cases rest with
    | nil => simp [unlines, join]
    | cons next others =>
      have cut : unlines (line :: next :: others) =
          line ++ ('\n' : CodePoint) :: unlines (next :: others) := by
        simp [unlines, join, newline]
      rw [cut, spoken_append_cons, ih]
      rfl

theorem dropStar_congr {line other : Text} (same : line.strip = other.strip) :
    dropStar line = dropStar other := by
  rw [← dropStar_strip line, same, dropStar_strip]

theorem spoken_append_left {margin : Text} (blank : ∀ c ∈ margin, c.isBlank = true) (t : Text) :
    spoken (margin ++ t) = spoken t := by
  induction margin with
  | nil => rfl
  | cons c rest ih =>
    rw [← ih fun d member => blank d (by simp [member]), List.cons_append]
    by_cases feed : c = ('\n' : CodePoint)
    · rw [feed]
      exact spoken_append_cons [] (rest ++ t)
    · obtain ⟨first, others, pieces, spread⟩ :=
        lines_append_of_free [c] (by simpa using Ne.symm feed) (rest ++ t)
      have same : dropStar ([c] ++ first) = dropStar first := by
        apply dropStar_congr
        rw [strip, strip, stripLeft_append (by simpa using blank c (by simp))]
      rw [← List.singleton_append, spoken, spoken, spread, pieces, List.map_cons, List.map_cons,
        same]

theorem spoken_of_blank {t : Text} (blank : ∀ c ∈ t, c.isBlank = true) : spoken t = [] := by
  have nothing := spoken_append_left blank []
  rw [List.append_nil] at nothing
  rw [nothing]
  rfl

theorem spoken_append_right (t : Text) {margin : Text} (blank : ∀ c ∈ margin, c.isBlank = true) :
    spoken (t ++ margin) = spoken t := by
  induction margin generalizing t with
  | nil => rw [List.append_nil]
  | cons c rest ih =>
    have shown : c.isBlank = true := blank c (by simp)
    have later := ih (t ++ [c]) fun d member => blank d (by simp [member])
    rw [List.append_assoc, List.singleton_append] at later
    rw [later]
    by_cases feed : c = ('\n' : CodePoint)
    · rw [feed, spoken_append_cons]
      exact List.append_nil _
    · obtain ⟨above, last, pieces⟩ : ∃ above last, lines t = above ++ [last] :=
        ⟨_, _, (List.dropLast_append_getLast (splitAt_ne_nil _ _)).symm⟩
      have spread : lines (t ++ [c]) = above ++ [last ++ [c]] := by
        have joined : lines (t ++ [c] ++ []) = above ++ [last ++ [c] ++ []] :=
          lines_between pieces rfl (by simpa using Ne.symm feed)
        simpa using joined
      have same : dropStar (last ++ [c]) = dropStar last :=
        dropStar_congr (strip_append_blank last (by simpa using shown))
      rw [spoken, spoken, spread, pieces]
      simp only [List.map_append, List.map_singleton, same]

theorem spoken_stripLeft (t : Text) : spoken t.stripLeft = spoken t := by
  have parts : t.indent ++ t.stripLeft = t := List.takeWhile_append_dropWhile
  conv_rhs => rw [← parts, spoken_append_left (indent_blank t)]

theorem spoken_stripRight (t : Text) : spoken t.stripRight = spoken t := by
  obtain ⟨after, parts, blank⟩ := exists_stripRight_append t
  conv_rhs => rw [parts, spoken_append_right _ blank]

theorem spoken_strip (t : Text) : spoken t.strip = spoken t := by
  rw [strip, spoken_stripRight, spoken_stripLeft]

/-! ### What is read from a block -/

/-- The text of a block without its marks. -/
def unmarked (t : Text) : Text := dropCloser (dropOpener t)

theorem filterMap_spoken (t : Text) :
    (contentLines t).filterMap entryOfLine? = (spoken (unmarked t)).filterMap entryOfLine? := by
  rw [contentLines, spoken, unmarked, List.filterMap_filter]
  apply List.filterMap_congr
  intro line _
  cases line with
  | nil => rfl
  | cons c rest => rfl

/-- Leaving items out before those that are taken or after it. -/
theorem filter_takeWhile {α : Type} {keep go : α → Bool}
    (passes : ∀ x, keep x = false → go x = true) (xs : List α) :
    (xs.takeWhile go).filter keep = (xs.filter keep).takeWhile go := by
  induction xs with
  | nil => rfl
  | cons x rest ih =>
    by_cases kept : keep x = true
    · by_cases goes : go x = true
      · simp [kept, goes, ih]
      · simp [kept, goes]
    · simp [kept, passes x (by simpa using kept), ih]

theorem description?_eq (t : Text) :
    description? t =
      match (spoken (unmarked t)).takeWhile (fun line => !line.opensWith '@') with
      | [] => none
      | lines => some (join " " lines) := by
  have passes : ∀ line : Text, (!line.isEmpty) = false → (!line.opensWith '@') = true := by
    intro line empty
    obtain rfl : line = [] := by simpa using empty
    rfl
  simp only [description?, filter_takeWhile passes]
  rfl

/-- Annotations with one more entry at the end of the list of a tag; a tag that is new comes after
all others. -/
structure Annotations.Appended (old new : Annotations) (tag : Text) (entry : Entry) : Prop where
  list : new.listOf tag = old.listOf tag ++ [entry]
  others : ∀ other, other ≠ tag → new.listOf other = old.listOf other
  known : tag ∈ old.keys → new.keys = old.keys
  unknown : tag ∉ old.keys → new.keys = old.keys ++ [tag]

section

variable {old new tag value : Text} (isTag : IsTag tag) (trimmed : Trimmed value)

include isTag trimmed

theorem entryOfLine?_tagText :
    entryOfLine? (tagText tag value) = some (tag, Entry.ofValue tag value) := by
  rw [entryOfLine?, tagLine?_tagText isTag trimmed]
  rfl

/-- A last line with a tag adds the entry of the tag, if the lines before it hold the same
entries. -/
theorem appended_of_entries {before : List Text}
    (same : before.filterMap entryOfLine? = (spoken (unmarked old)).filterMap entryOfLine?)
    (read : spoken (unmarked new) = before ++ [tagText tag value]) :
    Annotations.Appended (parse old) (parse new) tag (Entry.ofValue tag value) := by
  have pushed : parse new = (parse old).push tag (Entry.ofValue tag value) := by
    rw [parse_eq_pushAll, parse_eq_pushAll, filterMap_spoken, filterMap_spoken, read,
      List.filterMap_append, same]
    simp [entryOfLine?_tagText isTag trimmed, OrderedMap.pushAll]
  rw [pushed]
  refine ⟨?_, fun other different => ?_, fun known => ?_, fun unknown => ?_⟩
  · rw [OrderedMap.listOf_push, if_pos rfl]
  · rw [OrderedMap.listOf_push, if_neg different]
  · rw [OrderedMap.push, OrderedMap.keys_modify, if_pos known]
  · rw [OrderedMap.push, OrderedMap.keys_modify, if_neg unknown]

end

/-- A last line with a tag does not change the description. -/
theorem description?_of_spoken {old new tag value : Text}
    (read : spoken (unmarked new) = spoken (unmarked old) ++ [tagText tag value]) :
    description? new = description? old := by
  have same : (spoken (unmarked new)).takeWhile (fun line => !line.opensWith '@') =
      (spoken (unmarked old)).takeWhile (fun line => !line.opensWith '@') := by
    rw [read, List.takeWhile_append]
    split
    · rename_i whole
      rw [List.takeWhile_cons_of_neg (by simp [opensWith_tagText]), List.append_nil,
        (List.takeWhile_prefix _).eq_of_length whole]
    · rfl
  rw [description?_eq, description?_eq, same]

/-! ### Blocks of several lines -/

theorem dropCloser_append_blank (t : Text) {after : Text} (blank : ∀ c ∈ after, c.isBlank = true) :
    dropCloser (t ++ closer ++ after) = t.stripRight := by
  have right : (t ++ closer ++ after).stripRight = t ++ closer := by
    have slash : ('/' : CodePoint).isBlank = false := by decide
    rw [stripRight_append blank]
    exact stripRight_eq_self (last_append (by simp [closer_text]) (by simp [closer_text, slash]))
  have closes : endsWith (t ++ closer) closer = true :=
    List.isSuffixOf_iff_suffix.mpr (List.suffix_append _ _)
  simp only [dropCloser, right, closes, ↓reduceIte, List.length_append, Nat.add_sub_cancel,
    List.take_left]

/-- Between the marks of a block stands its text, without the white space around it. -/
theorem unmarked_between {margin after : Text} (before : ∀ c ∈ margin, c.isBlank = true)
    (behind : ∀ c ∈ after, c.isBlank = true) (inner : Text) :
    unmarked (margin ++ opener ++ inner ++ closer ++ after) = inner.strip := by
  have star : ('*' : CodePoint).isBlank = false := by decide
  have whole : margin ++ opener ++ inner ++ closer ++ after =
      margin ++ (opener ++ (inner ++ closer ++ after)) := by simp
  have left : stripLeft (inner ++ closer ++ after) = inner.stripLeft ++ closer ++ after := by
    have kept := stripLeft_append_solid inner star (('/' : CodePoint) :: after)
    simpa [closer_text] using kept
  rw [unmarked, whole, dropOpener_append before, left, dropCloser_append_blank _ behind, strip]

theorem spoken_block {margin after first last : Text} (before : ∀ c ∈ margin, c.isBlank = true)
    (behind : ∀ c ∈ after, c.isBlank = true) (middle : List Text) :
    spoken (unmarked (unlines ((margin ++ opener ++ first) :: middle ++
        [last ++ closer ++ after]))) =
      spoken first ++ middle.flatMap spoken ++ spoken last := by
  have whole : unlines ((margin ++ opener ++ first) :: middle ++ [last ++ closer ++ after]) =
      margin ++ opener ++ unlines (first :: middle ++ [last]) ++ closer ++ after := by
    rw [unlines_append _ (by simp), unlines_append _ (by simp)]
    simp [unlines, join]
  rw [whole, unmarked_between before behind, spoken_strip, spoken_unlines]
  simp

theorem spoken_tagged {margin line : Text} (blank : ∀ c ∈ margin, c.isBlank = true)
    (free : ('\n' : CodePoint) ∉ line) (trimmed : Trimmed line) (nonempty : line ≠ []) :
    spoken (margin ++ ("* " : Text) ++ line) = [line] := by
  have star : ("* " : Text) = [('*' : CodePoint), (' ' : CodePoint)] := by simp [ofString]
  have read : dropStar (("* " : Text) ++ line) = line := by
    have last := stripRight_eq_self (last_space nonempty trimmed.last)
    have dropped := dropStar_margin (List.forall_mem_nil _) ((' ' : CodePoint) :: line)
    rw [last, stripLeft_space trimmed.head] at dropped
    simpa [star] using dropped
  have single : ('\n' : CodePoint) ∉ ("* " : Text) ++ line := by simp [free]
  rw [List.append_assoc, spoken_append_left blank, spoken_of_free single, read]
  simp [nonempty]

/-- Where a closing line does not open a block itself, the lines in its place are its text, the tag
and a closing mark. -/
theorem closeWith_text {closing : Text} (tagLine : Text)
    (closes : closing.strip.endsWith closer = true)
    (separate : closing.strip.startsWith opener = false) :
    ∃ text after kept after', closing = closing.indent ++ text ++ closer ++ after ∧
      (∀ c ∈ after, c.isBlank = true) ∧ (∀ c ∈ after', c.isBlank = true) ∧
      kept.flatMap spoken = spoken (closing.indent ++ text) ∧
      closeWith closing tagLine = kept ++ [closing.indent ++ "* " ++ tagLine,
        closing.indent ++ closer ++ after'] := by
  obtain ⟨text, after, whole, stripped, blank, cut⟩ := exists_closing_parts closes
  by_cases bare : closing.strip = closer
  · obtain rfl : text = [] := by simpa [bare] using stripped
    refine ⟨[], after, [], after, whole, blank, blank, ?_, ?_⟩
    · rw [List.append_nil, spoken_of_blank (indent_blank closing)]
      rfl
    · rw [List.append_nil] at whole
      rw [closeWith, if_pos bare, ← whole]
      rfl
  · obtain ⟨c, more, solid, _, body, _, _⟩ := exists_closing_body closes bare
    have shortened : stripRight (closing.indent ++ text) = closing.indent ++ c :: more := by
      simpa [cut] using body
    have left : stripLeft (closing.indent ++ c :: more) = c :: more := by
      rw [stripLeft_append (indent_blank closing)]
      exact stripLeft_eq_self (by simpa using solid)
    have plain : startsWith (c :: more) opener = false := by
      rw [← Bool.not_eq_true]
      intro opens
      have front : c :: more <+: text := by
        have inside := shortened ▸ stripRight_isPrefix (closing.indent ++ text)
        exact (List.prefix_append_right_inj _).mp inside
      have opened : opener <+: closing.strip := by
        rw [stripped]
        exact (List.isPrefixOf_iff_prefix.mp opens).trans (front.trans (List.prefix_append _ _))
      rw [startsWith, List.isPrefixOf_iff_prefix.mpr opened] at separate
      cases separate
    have visible : strip (closing.indent ++ c :: more) ≠ [] :=
      strip_ne_nil_of_mem (c := c) (by simp) solid
    refine ⟨text, after, [closing.indent ++ c :: more], [], whole, blank, by simp, ?_, ?_⟩
    · rw [← shortened, List.flatMap_singleton, spoken_stripRight]
    · have mark : ("*/" : Text) = closer := rfl
      simp [closeWith, bare, body, left, plain, visible, mark]

theorem exists_opening_parts {line : Text} (opens : line.strip.startsWith opener = true) :
    ∃ rest, line = line.indent ++ opener ++ rest := by
  obtain ⟨after, whole, _⟩ := exists_indent_strip line
  obtain ⟨text, starts⟩ := List.isPrefixOf_iff_prefix.mp opens
  refine ⟨text ++ after, ?_⟩
  rw [← starts] at whole
  simpa using whole

/-- A tag that is added to a block of several lines is one more line of it, the last one. -/
theorem spoken_addTag {first last tag value : Text} {inner : List Text}
    (free : ∀ line ∈ first :: inner ++ [last], ('\n' : CodePoint) ∉ line)
    (opens : first.strip.startsWith opener = true) (closes : last.strip.endsWith closer = true)
    (separate : last.strip.startsWith opener = false) (isTag : IsTag tag)
    (single : ('\n' : CodePoint) ∉ value) :
    spoken (unmarked (addTag (unlines (first :: inner ++ [last])) tag value)) =
      spoken (unmarked (unlines (first :: inner ++ [last]))) ++ [tagText tag value.strip] := by
  have content := contentLine_written isTag single
  have proper := tagText_ne_nil tag value.strip
  have margin := indent_blank first
  obtain ⟨rest, top⟩ := exists_opening_parts opens
  obtain ⟨text, after, kept, after', bottom, blank, blank', same, new⟩ :=
    closeWith_text (tagText tag value.strip) closes separate
  have nothing := spoken_of_blank (indent_blank last)
  have tagged := spoken_tagged (indent_blank last) content.free content.toTrimmed proper
  have old : spoken (unmarked (unlines (first :: inner ++ [last]))) =
      spoken rest ++ inner.flatMap spoken ++ spoken (last.indent ++ text) := by
    conv_lhs => rw [top, bottom]
    exact spoken_block margin blank inner
  calc spoken (unmarked (addTag (unlines (first :: inner ++ [last])) tag value))
      = spoken (unmarked (unlines ((first.indent ++ opener ++ rest) ::
          (inner ++ kept ++ [last.indent ++ "* " ++ tagText tag value.strip]) ++
          [last.indent ++ closer ++ after']))) := by
        rw [addTag_unlines free ⟨first, by simp, opens⟩ closes, new, ← top]
        simp
    _ = spoken rest ++ (inner ++ kept ++ [last.indent ++ "* " ++ tagText tag value.strip]).flatMap
          spoken ++ spoken last.indent := spoken_block margin blank' _
    _ = spoken (unmarked (unlines (first :: inner ++ [last]))) ++ [tagText tag value.strip] := by
        rw [old, nothing, List.flatMap_append, List.flatMap_append, same, List.flatMap_singleton,
          tagged]
        simp

/-- Adding a tag to a block of several lines appends the entry of the tag, and the description
stays. -/
theorem tag_appended {lines : List Text} (free : ∀ line ∈ lines, ('\n' : CodePoint) ∉ line)
    {anchor : Int} {block : Location} (found : locate? lines anchor = some block)
    (several : block.firstLine < block.lastLine) {tag value : Text} (isTag : IsTag tag)
    (single : ('\n' : CodePoint) ∉ value) :
    Annotations.Appended (parse block.text) (parse (addTag block.text tag value)) tag
        (Entry.ofValue tag value.strip) ∧
      description? (addTag block.text tag value) = description? block.text := by
  obtain ⟨index, located⟩ := exists_locateAt?_of_locate? found
  obtain ⟨front, span, back, rfl, _, rfl, isBlock, rfl⟩ := exists_blockSpan located
  cases isBlock with
  | single => simp at several
  | @several first last inner opens between closes separate =>
    have inside : ∀ line ∈ first :: inner ++ [last], ('\n' : CodePoint) ∉ line :=
      fun line member => free line (List.mem_append_left _ (List.mem_append_right _ member))
    have read := spoken_addTag inside opens closes separate isTag single
    exact ⟨appended_of_entries isTag (trimmed_strip value) rfl read, description?_of_spoken read⟩

/-- A block with closing marks inside and more stars before the last one. -/
def closedEarly : List Text :=
  ["<?php", "/**/ F", " */", "", " * @param int $a **/", "function f($a) \x7b\x7d"]

theorem tag_appended_sample :
    ∃ block, locate? closedEarly 5 = some block ∧ block.firstLine < block.lastLine ∧
      (parse block.text).listOf "param" = [⟨some "int", some "$a", some "*", none, false, none⟩] ∧
      description? block.text = some "/ F /" ∧
      Annotations.Appended (parse block.text) (parse (addTag block.text "return" " int ")) "return"
        (Entry.ofValue "return" (" int " : Text).strip) ∧
      description? (addTag block.text "return" " int ") = description? block.text := by
  have found : locate? closedEarly 5 = some (.ofLines closedEarly 1 4) := by decide +kernel
  exact ⟨_, found, by decide, by decide +kernel, by decide +kernel,
    tag_appended (by decide +kernel) found (by decide) ⟨by decide +kernel, by decide +kernel⟩
      (by decide +kernel)⟩

end DocRepair.Docblock
