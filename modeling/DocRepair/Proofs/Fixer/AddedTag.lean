import DocRepair.Proofs.Fixer.Growth
import DocRepair.Proofs.Fixer.WrittenBytes

/-!
A tag that is added to a block is read from it.

The line of the tag begins with a star and stands above a closing mark. Neither mark reaches it when
the marks are taken off, whatever else the block holds.
-/

namespace DocRepair.Docblock

open Text

/-! ### Lines that begin with a star -/

/-- A text after which a line has only its indentation. -/
structure IsMargin (above margin : Text) : Prop where
  ended : ∀ c ∈ above.getLast?, c = ('\n' : CodePoint)
  blank : ∀ c ∈ margin, c.isBlank = true
  free : ('\n' : CodePoint) ∉ margin

theorem IsMargin.suffix {above margin front : Text} (indented : IsMargin above margin)
    (suffix : front <:+ above ++ margin) :
    ∃ above' margin', front = above' ++ margin' ∧ IsMargin above' margin' := by
  rcases List.suffix_or_suffix_of_suffix suffix (List.suffix_append above margin) with
    inside | ⟨kept, rfl⟩
  · exact ⟨[], front, rfl, by simp, fun c member => indented.blank c (inside.subset member),
      fun member => indented.free (inside.subset member)⟩
  · refine ⟨kept, margin, rfl, fun c last => ?_, indented.blank, indented.free⟩
    obtain ⟨cut, parts⟩ := suffix
    have whole : cut ++ kept = above := by simpa [← List.append_assoc] using parts
    apply indented.ended c
    rw [← whole, List.getLast?_append, Option.mem_def.mp last]
    rfl

theorem IsMargin.last {above margin : Text} (indented : IsMargin above margin) :
    ∀ c ∈ (above ++ margin).getLast?, c.isBlank = true := by
  intro c last
  cases margin using List.reverseRecOn with
  | nil =>
    rw [List.append_nil] at last
    rw [indented.ended c last]
    decide
  | append_singleton margin d =>
    obtain rfl : d = c := by simpa using last
    exact indented.blank d (by simp)

theorem mem_lines_of_isMargin {above margin line : Text} (indented : IsMargin above margin)
    (free : ('\n' : CodePoint) ∉ line) {below : Text}
    (ended : ∀ c ∈ below.head?, c = ('\n' : CodePoint)) :
    margin ++ line ∈ Text.lines (above ++ margin ++ line ++ below) := by
  have whole : ('\n' : CodePoint) ∉ margin ++ line := by simp [indented.free, free]
  have first : margin ++ line ∈ Text.lines (margin ++ line ++ below) := by
    cases below with
    | nil => simp [lines_of_not_mem whole]
    | cons c rest =>
      obtain rfl := ended c (by simp)
      rw [Text.lines, splitAt_append_cons, splitAt_of_not_mem whole]
      simp
  cases above using List.reverseRecOn with
  | nil => simpa using first
  | append_singleton above c =>
    obtain rfl := indented.ended c (by simp)
    have parts : above ++ [('\n' : CodePoint)] ++ margin ++ line ++ below =
        above ++ ('\n' : CodePoint) :: (margin ++ line ++ below) := by simp
    rw [parts, Text.lines, splitAt_append_cons]
    exact List.mem_append_right _ first

/-! ### Taking the marks off -/

theorem stripLeft_append_solid (front : Text) {c : CodePoint} (solid : c.isBlank = false)
    (rest : Text) : (front ++ c :: rest).stripLeft = front.stripLeft ++ c :: rest := by
  induction front with
  | nil => simp [stripLeft, solid]
  | cons d front ih =>
    by_cases blank : d.isBlank = true
    · simpa [stripLeft, blank] using ih
    · simp [stripLeft, blank]

theorem stripRight_append_solid (front : Text) {c : CodePoint} (solid : c.isBlank = false)
    (rest : Text) : (front ++ c :: rest).stripRight = front ++ c :: rest.stripRight := by
  have reversed := stripLeft_append_solid rest.reverse solid front.reverse
  simpa [stripRight, dropTrailing, stripLeft] using congrArg List.reverse reversed

/-- The opening mark lies above a line that begins with a star. -/
theorem dropOpener_starred {front : Text} (last : ∀ c ∈ front.getLast?, c.isBlank = true)
    (rest : Text) :
    ∃ kept, kept <:+ front ∧
      dropOpener (front ++ ('*' : CodePoint) :: rest) = kept ++ ('*' : CodePoint) :: rest := by
  have solid : ('*' : CodePoint).isBlank = false := by decide
  have marks : ∀ c ∈ opener, c.isBlank = false := by decide
  rw [dropOpener, stripLeft_append_solid front solid rest]
  split
  · rename_i opens
    have inside : opener <+: front.stripLeft := by
      have opens := List.isPrefixOf_iff_prefix.mp opens
      rcases List.prefix_or_prefix_of_prefix opens (List.prefix_append _ _) with inside | short
      · exact inside
      · by_cases nothing : front.stripLeft = []
        · rw [nothing, opener_text] at opens
          simp at opens
        -- What is left above the star ends in white space, so the mark does not end in the star.
        · have ends := List.getLast_mem_getLast? nothing
          obtain ⟨cut, parts⟩ := stripLeft_suffix front
          have blank := last _ (by rw [← parts, List.getLast?_append, Option.mem_def.mp ends]; rfl)
          rw [marks _ (short.subset (List.getLast_mem nothing))] at blank
          cases blank
    obtain ⟨more, parts⟩ := inside
    refine ⟨stripLeft more, ?_, ?_⟩
    · exact (stripLeft_suffix more).trans (List.IsSuffix.trans ⟨opener, parts⟩
        (stripLeft_suffix front))
    · rw [← parts, List.append_assoc, List.drop_left, stripLeft_append_solid more solid]
  · exact ⟨front, List.suffix_rfl, rfl⟩

/-- Lines up to a line feed, with what follows it or without white space at the end. -/
theorem stripRight_line (front after : Text) :
    ∃ line below, stripRight (front ++ ('\n' : CodePoint) :: after) = line ++ below ∧
      (∀ c ∈ below.head?, c = ('\n' : CodePoint)) ∧ (line = front ∨ line = front.stripRight) := by
  by_cases nothing : after.stripRight = []
  · have blank : ∀ c ∈ ('\n' : CodePoint) :: after, c.isBlank = true := by
      rw [List.forall_mem_cons]
      exact ⟨by decide, by simpa [stripRight, dropTrailing] using nothing⟩
    exact ⟨front.stripRight, [], by rw [stripRight_append blank, List.append_nil], by simp,
      .inr rfl⟩
  · refine ⟨front, ('\n' : CodePoint) :: after.stripRight, ?_, by simp, .inl rfl⟩
    have kept := stripRight_append_of_ne_nil (front ++ [('\n' : CodePoint)]) nothing
    simpa using kept

/-- The closing mark lies below a line, if one stands there. -/
theorem dropCloser_below (front : Text) {after : Text} (closed : closer <:+: after) :
    ∃ line below, dropCloser (front ++ ('\n' : CodePoint) :: after) = line ++ below ∧
      (∀ c ∈ below.head?, c = ('\n' : CodePoint)) ∧ (line = front ∨ line = front.stripRight) := by
  rw [dropCloser]
  split
  · rename_i closes
    obtain ⟨inner, behind, rfl⟩ := closed
    have stripped : stripRight (front ++ ('\n' : CodePoint) :: (inner ++ closer ++ behind)) =
        (front ++ ('\n' : CodePoint) :: inner) ++
          ('*' : CodePoint) :: ('/' : CodePoint) :: stripRight behind := by
      have slash : ('/' : CodePoint).isBlank = false := by decide
      have kept := stripRight_append_solid
        (front ++ ('\n' : CodePoint) :: (inner ++ [('*' : CodePoint)])) slash behind
      simpa [closer_text] using kept
    rw [stripped] at closes ⊢
    obtain ⟨body, parts⟩ := List.suffix_of_suffix_length_le
      (List.isSuffixOf_iff_suffix.mp closes) (List.suffix_append _ _) (by simp [closer_text])
    have cut : (front ++ ('\n' : CodePoint) :: inner) ++
        ('*' : CodePoint) :: ('/' : CodePoint) :: stripRight behind =
        (front ++ ('\n' : CodePoint) :: (inner ++ body)) ++ closer := by
      rw [← parts]
      simp
    rw [cut, List.length_append, Nat.add_sub_cancel, List.take_left]
    exact stripRight_line front (inner ++ body)
  · exact ⟨front, ('\n' : CodePoint) :: after, rfl, by simp, .inl rfl⟩

theorem dropStar_margin {margin : Text} (blank : ∀ c ∈ margin, c.isBlank = true) (text : Text) :
    dropStar (margin ++ ('*' : CodePoint) :: text) = stripLeft text.stripRight := by
  have star : ('*' : CodePoint).isBlank = false := by decide
  have left : stripLeft (margin ++ ('*' : CodePoint) :: text) = ('*' : CodePoint) :: text := by
    rw [stripLeft_append blank]
    exact stripLeft_eq_self (by simpa using star)
  have right := stripRight_append_solid [] star text
  simp only [List.nil_append] at right
  simp only [dropStar, strip, left, right, ↓reduceIte]

/-- A line that begins with a star above a closing mark is read. -/
theorem mem_contentLines_starred {above margin text after : Text}
    (indented : IsMargin above margin) (free : ('\n' : CodePoint) ∉ text)
    (closed : closer <:+: after) :
    stripLeft text.stripRight ∈ contentLines
      (above ++ margin ++ ('*' : CodePoint) :: text ++ ('\n' : CodePoint) :: after) := by
  have star : ('*' : CodePoint).isBlank = false := by decide
  obtain ⟨kept, suffix, opened⟩ :=
    dropOpener_starred indented.last (text ++ ('\n' : CodePoint) :: after)
  obtain ⟨above, margin, rfl, indented⟩ := indented.suffix suffix
  obtain ⟨line, below, rest, ended, same⟩ :=
    dropCloser_below (above ++ margin ++ ('*' : CodePoint) :: text) closed
  obtain ⟨text', line_eq, free', same'⟩ : ∃ text',
      line = above ++ margin ++ ('*' : CodePoint) :: text' ∧ ('\n' : CodePoint) ∉ text' ∧
        stripRight text' = text.stripRight := by
    rcases same with rfl | rfl
    · exact ⟨text, rfl, free, rfl⟩
    · exact ⟨text.stripRight, stripRight_append_solid _ star text,
        fun member => free ((stripRight_isPrefix text).subset member),
        stripRight_eq_self (last_stripRight text)⟩
  have member : margin ++ ('*' : CodePoint) :: text' ∈ Text.lines (line ++ below) := by
    rw [line_eq]
    exact mem_lines_of_isMargin indented (by simpa using free') ended
  rw [contentLines, List.append_assoc, List.cons_append, opened, ← List.cons_append,
    ← List.append_assoc, rest, ← same', ← dropStar_margin indented.blank text']
  exact List.mem_map_of_mem member

/-! ### The tag that is added -/

/-- The lines in place of a closing line: the tag stands behind a star, above a closing mark. -/
theorem closeWith_parts (closing tagLine : Text) :
    ∃ top margin bottom,
      closeWith closing tagLine = top ++ [margin ++ ("* " : Text) ++ tagLine, bottom] ∧
      (∀ c ∈ margin, c.isBlank = true) ∧
      (('\n' : CodePoint) ∉ closing → ('\n' : CodePoint) ∉ margin) ∧ closer <:+: bottom := by
  have blank := indent_blank closing
  have free : ('\n' : CodePoint) ∉ closing → ('\n' : CodePoint) ∉ closing.indent :=
    fun free member => free (List.takeWhile_subset _ member)
  have spaced : (" * " : Text) = (" " : Text) ++ ("* " : Text) := by simp [ofString]
  have space : ∀ c ∈ (" " : Text), c.isBlank = true := by decide
  simp only [closeWith]
  split
  · rename_i bare
    exact ⟨[], closing.indent, closing, rfl, blank, free, bare ▸ strip_isInfix closing⟩
  · split
    · have tagged : closing.indent ++ (" * " : Text) ++ tagLine =
          closing.indent ++ (" " : Text) ++ ("* " : Text) ++ tagLine := by simp [spaced]
      rw [tagged]
      refine ⟨_, closing.indent ++ " ", closing.indent ++ " */", rfl, ?_, ?_, ?_⟩
      · exact List.forall_mem_append.mpr ⟨blank, space⟩
      · simpa using free
      · exact ⟨closing.indent ++ " ", [], by simp [closer, ofString]⟩
    · exact ⟨_, closing.indent, closing.indent ++ "*/", rfl, blank, free,
        ⟨closing.indent, [], by simp [closer]⟩⟩

theorem exists_splitAtCloser? {lines : List Text}
    (closed : ∃ line ∈ lines, line.holds closer = true) :
    ∃ before closing after, splitAtCloser? lines = some (before, closing, after) := by
  induction lines with
  | nil => simp at closed
  | cons line rest ih =>
    cases later : splitAtCloser? rest with
    | some parts => exact ⟨line :: parts.1, parts.2.1, parts.2.2, by simp [splitAtCloser?, later]⟩
    | none =>
      have here : line.holds closer = true := by
        obtain ⟨other, member, holds⟩ := closed
        rcases List.mem_cons.mp member with rfl | below
        · exact holds
        · obtain ⟨_, _, _, found⟩ := ih ⟨other, below, holds⟩
          simp [later] at found
      exact ⟨[], line, rest, by simp [splitAtCloser?, later, here]⟩

/-- A mark without a line feed lies in one of the lines. -/
theorem exists_line_holds {t part : Text} (free : ('\n' : CodePoint) ∉ part)
    (holds : t.holds part = true) : ∃ line ∈ t.lines, line.holds part = true := by
  obtain ⟨front, back, rfl⟩ := (holds_iff_isInfix t part).mp holds
  obtain ⟨above, left, before⟩ : ∃ above left, Text.lines front = above ++ [left] :=
    ⟨_, _, (List.dropLast_append_getLast (splitAt_ne_nil _ _)).symm⟩
  obtain ⟨right, below, after⟩ := List.exists_cons_of_ne_nil (splitAt_ne_nil '\n' back)
  refine ⟨left ++ part ++ right, ?_, (holds_iff_isInfix _ _).mpr ⟨left, right, rfl⟩⟩
  rw [lines_between before after free]
  simp

theorem isMargin_lines (above : List Text) {margin : Text}
    (blank : ∀ c ∈ margin, c.isBlank = true) (free : ('\n' : CodePoint) ∉ margin) :
    IsMargin (above.flatMap (· ++ newline)) margin := by
  refine ⟨fun c last => ?_, blank, free⟩
  cases above using List.reverseRecOn with
  | nil => simp at last
  | append_singleton above line =>
    rw [List.flatMap_append, List.flatMap_singleton, ← List.append_assoc] at last
    simpa [newline, eq_comm] using last

theorem unlines_append (above : List Text) {lines : List Text} (nonempty : lines ≠ []) :
    unlines (above ++ lines) = above.flatMap (· ++ newline) ++ unlines lines :=
  join_append_flatMap newline above nonempty

/-- Where a tag goes that is added: behind a star, above a closing mark. -/
theorem addTag_parts {t : Text} (tag value : Text)
    (closed : t.holds opener = true → t.holds closer = true) :
    ∃ above margin after, IsMargin above margin ∧ closer <:+: after ∧
      addTag t tag value = above ++ margin ++ ('*' : CodePoint) :: (' ' : CodePoint) ::
        tagText tag value.strip ++ ('\n' : CodePoint) :: after := by
  rw [addTag]
  split
  · rename_i opened
    obtain ⟨before, closing, after, split⟩ :=
      exists_splitAtCloser? (exists_line_holds (by simp [closer]) (closed opened))
    have free : ('\n' : CodePoint) ∉ closing := by
      apply not_mem_of_mem_splitAt (t := t)
      rw [← Text.lines, eq_append_of_splitAtCloser? split]
      simp
    obtain ⟨top, margin, bottom, lines, blank, margin_free, last⟩ :=
      closeWith_parts closing (tagText tag value.strip)
    refine ⟨(before ++ top).flatMap (· ++ newline), margin, unlines (bottom :: after),
      isMargin_lines _ blank (margin_free free), ?_, ?_⟩
    · exact last.trans (isInfix_join_of_mem newline List.mem_cons_self)
    · have parts : ∀ line, before ++ (top ++ [line, bottom]) ++ after =
          before ++ top ++ line :: bottom :: after := by simp
      simp only [split, lines]
      rw [parts, unlines_append _ (by simp), unlines, join_cons _ _ (by simp)]
      simp [unlines, newline, ofString]
  · refine ⟨opener ++ newline, [(' ' : CodePoint)], " */", ⟨?_, ?_, ?_⟩, ?_, ?_⟩
    · simp [newline]
    · decide
    · decide
    · exact ⟨" ", [], by simp [closer, ofString]⟩
    · simp [single, opener, newline, ofString]

/-- The first line of a value, without the white space around it. -/
def firstLine (value : Text) : Text :=
  stripRight (value.strip.takeWhile fun c => c != ('\n' : CodePoint))

theorem firstLine_eq_strip {value : Text} (free : ('\n' : CodePoint) ∉ value) :
    firstLine value = value.strip := by
  have whole : value.strip.takeWhile (fun c => c != ('\n' : CodePoint)) = value.strip := by
    rw [List.takeWhile_eq_self_iff]
    intro c member
    have inside := (strip_isInfix value).subset member
    simpa using fun same : c = ('\n' : CodePoint) => free (same ▸ inside)
  rw [firstLine, whole, stripRight_eq_self (trimmed_strip value).last]

theorem trimmed_firstLine (value : Text) : Trimmed (firstLine value) where
  head := head_of_isPrefix ((stripRight_isPrefix _).trans (List.takeWhile_prefix _))
    (trimmed_strip value).head
  last := last_stripRight _

/-- The first line of a tag with a value is the tag with the first line of the value. -/
theorem exists_firstLine_tagText {tag : Text} (isTag : IsTag tag) (value : Text) :
    ∃ line below, tagText tag value.strip = line ++ below ∧ ('\n' : CodePoint) ∉ line ∧
      (∀ c ∈ below.head?, c = ('\n' : CodePoint)) ∧
      line.stripRight = tagText tag (firstLine value) := by
  have tag_free : ('\n' : CodePoint) ∉ tag := fun member => by
    have solid := isTag.solid _ member
    revert solid
    decide
  cases stripped : value.strip with
  | nil =>
    have nothing : firstLine value = [] := by rw [firstLine, stripped]; rfl
    have written := contentLine_tagText isTag contentLine_nil
    exact ⟨tagText tag [], [], by simp, written.free, by simp,
      by rw [nothing, stripRight_eq_self written.last]⟩
  | cons c rest =>
    have solid : c.isBlank = false := (trimmed_strip value).head c (by simp [stripped])
    have other : c ≠ ('\n' : CodePoint) := by
      rintro rfl
      revert solid
      decide
    have first : firstLine value =
        c :: stripRight (rest.takeWhile fun c => c != ('\n' : CodePoint)) := by
      have kept := stripRight_append_solid [] solid
        (rest.takeWhile fun c => c != ('\n' : CodePoint))
      simpa [firstLine, stripped, other] using kept
    rw [first, tagText_of_ne_nil tag (by simp), tagText_of_ne_nil tag (by simp)]
    refine ⟨('@' : CodePoint) :: (tag ++ (' ' : CodePoint) :: c ::
        rest.takeWhile fun c => c != ('\n' : CodePoint)),
      rest.dropWhile fun c => c != ('\n' : CodePoint), ?_, ?_, ?_, ?_⟩
    · simp [List.takeWhile_append_dropWhile]
    · have later : ('\n' : CodePoint) ∉ rest.takeWhile fun c => c != ('\n' : CodePoint) :=
        fun member => by simpa using List.mem_takeWhile_imp member
      simp [tag_free, Ne.symm other, later]
    · intro d found
      have stopped := List.head?_dropWhile_not (fun c => c != ('\n' : CodePoint)) rest
      rw [Option.mem_def.mp found] at stopped
      simpa using stopped
    · have kept := stripRight_append_solid (('@' : CodePoint) :: (tag ++ [(' ' : CodePoint)])) solid
        (rest.takeWhile fun c => c != ('\n' : CodePoint))
      simpa using kept

section

variable {t tag : Text} (value : Text) (isTag : IsTag tag)
  (closed : t.holds opener = true → t.holds closer = true)

include isTag closed

theorem tagText_mem_contentLines_addTag :
    tagText tag (firstLine value) ∈ contentLines (addTag t tag value) := by
  obtain ⟨above, margin, after, indented, mark, parts⟩ := addTag_parts tag value closed
  obtain ⟨line, below, first, free, ended, written⟩ := exists_firstLine_tagText isTag value
  -- The other lines of the value stand between the first one and the closing mark.
  obtain ⟨after, mark, whole⟩ : ∃ after', closer <:+: after' ∧ addTag t tag value =
      above ++ margin ++ ('*' : CodePoint) :: (' ' : CodePoint) :: line ++
        ('\n' : CodePoint) :: after' := by
    rw [parts, first]
    cases below with
    | nil => exact ⟨after, mark, by simp⟩
    | cons c rest =>
      obtain rfl := ended c (by simp)
      exact ⟨rest ++ ('\n' : CodePoint) :: after,
        mark.trans ⟨rest ++ [('\n' : CodePoint)], [], by simp⟩, by simp⟩
  have head : ∀ c ∈ line.stripRight.head?, c.isBlank = false := by
    rw [written, head_tagText]
    decide
  have nonempty : line.stripRight ≠ [] := by
    intro nothing
    have start := head_tagText tag (firstLine value)
    rw [← written, nothing] at start
    cases start
  have right : stripRight ((' ' : CodePoint) :: line) = (' ' : CodePoint) :: line.stripRight :=
    stripRight_append_of_ne_nil [(' ' : CodePoint)] nonempty
  have line_free : ('\n' : CodePoint) ∉ (' ' : CodePoint) :: line := by simpa using free
  have read := mem_contentLines_starred indented line_free mark
  rwa [right, stripLeft_space head, written, ← whole] at read

/-- A tag that is added to a block, or written as a block, is read with the first line of its
value. -/
theorem ofValue_mem_parse_addTag :
    Entry.ofValue tag (firstLine value) ∈ (parse (addTag t tag value)).listOf tag := by
  have content := tagText_mem_contentLines_addTag value isTag closed
  rw [listOf_parse]
  refine List.mem_map.mpr ⟨(tag, Entry.ofValue tag (firstLine value)), ?_, rfl⟩
  refine List.mem_filter.mpr ⟨List.mem_filterMap.mpr ⟨_, content, ?_⟩, by simp⟩
  rw [entryOfLine?, tagLine?_tagText isTag (trimmed_firstLine value)]
  rfl

end

end DocRepair.Docblock
