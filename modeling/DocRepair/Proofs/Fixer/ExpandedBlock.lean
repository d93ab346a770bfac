import DocRepair.Proofs.Fixer.AppendedTag

/-!
Adding a tag to a block of one line.

The line gives way to a block of several lines, with the text between the marks on a line of its
own. Two kinds of lines do not survive this: an empty comment `/**/`, whose marks share their star
and are torn apart, and a text that has a star of its own, which is read with one star less than
before and hides a tag that stands behind it.
-/

namespace DocRepair.Docblock

open Text

/-! ### Lines with both marks -/

def betweenMarks (line : Text) : Text :=
  (line.strip.drop opener.length).take (line.strip.length - opener.length - closer.length)

/-- The text between the marks has a star of its own in front, and behind the star stands a tag. -/
def HidesTag (line : Text) : Prop :=
  (betweenMarks line).strip.opensWith '*' = true ∧
    (tagLine? (dropStar (betweenMarks line))).isSome = true

instance (line : Text) : Decidable (HidesTag line) :=
  inferInstanceAs (Decidable (_ ∧ _))

/-- The empty comment, in which the marks share a star. -/
def emptyComment : Text := "/**/"

theorem emptyComment_text : emptyComment = [('/' : CodePoint), ('*' : CodePoint)] ++ closer := by
  simp [emptyComment, closer, ofString]

theorem betweenMarks_of_parts {line content : Text}
    (parts : line.strip = opener ++ content ++ closer) : betweenMarks line = content := by
  have count : line.strip.length - opener.length - closer.length = content.length := by
    rw [parts]
    simp only [List.length_append]
    omega
  rw [betweenMarks, count, parts, List.append_assoc, List.drop_left, List.take_left]

/-- A line with both marks is the empty comment, or it has a text between them. -/
theorem oneLine_cases {line : Text} (opens : line.strip.startsWith opener = true)
    (closes : line.strip.endsWith closer = true) :
    line.strip = emptyComment ∨ line.strip = opener ++ betweenMarks line ++ closer := by
  obtain ⟨rest, starts⟩ := List.isPrefixOf_iff_prefix.mp opens
  have ends := List.isSuffixOf_iff_suffix.mp closes
  rw [← starts] at ends
  match rest with
  | [] =>
    have never : ¬closer <:+ opener ++ [] := by decide
    exact absurd ends never
  | [c] =>
    left
    have same : c = ('/' : CodePoint) := by
      obtain ⟨front, parts⟩ := ends
      have last := congrArg List.getLast? parts
      simpa [closer_text, eq_comm] using last
    rw [← starts, same]
    rfl
  | c :: d :: more =>
    right
    obtain ⟨content, parts⟩ : closer <:+ c :: d :: more :=
      List.suffix_of_suffix_length_le ends (List.suffix_append _ _) (by simp [closer_text])
    have whole : line.strip = opener ++ content ++ closer := by
      rw [← starts, ← parts, List.append_assoc]
    rw [betweenMarks_of_parts whole]
    exact whole

section

variable {line : Text} (tagLine : Text)

/-- The lines in place of a line with a text between its marks. -/
theorem closeWith_between (parts : line.strip = opener ++ betweenMarks line ++ closer) :
    closeWith line tagLine = (line.indent ++ opener) ::
      ((if (betweenMarks line).strip.isEmpty then []
        else [line.indent ++ " * " ++ (betweenMarks line).strip]) ++
          [line.indent ++ " * " ++ tagLine]) ++ [line.indent ++ " */"] := by
  have closes : line.strip.endsWith closer = true := by
    rw [parts]
    exact List.isSuffixOf_iff_suffix.mpr (List.suffix_append _ _)
  have bare : line.strip ≠ closer := by
    intro same
    have count := congrArg List.length (same.symm.trans parts)
    simp [opener_text, closer_text] at count
  obtain ⟨text, after, _, stripped, _, cut⟩ := exists_closing_parts closes
  obtain rfl : text = opener ++ betweenMarks line :=
    List.append_cancel_right (stripped.symm.trans parts)
  have body : stripRight (line.indent ++ (opener ++ betweenMarks line)) =
      line.indent ++ (opener ++ (betweenMarks line).stripRight) := by
    have star : ('*' : CodePoint).isBlank = false := by decide
    have kept := stripRight_append_solid
      (line.indent ++ [('/' : CodePoint), ('*' : CodePoint)]) star (betweenMarks line)
    simpa [opener_text] using kept
  have left : stripLeft (line.indent ++ (opener ++ (betweenMarks line).stripRight)) =
      opener ++ (betweenMarks line).stripRight := by
    have slash : ('/' : CodePoint).isBlank = false := by decide
    rw [stripLeft_append (indent_blank line)]
    exact stripLeft_eq_self (by simp [opener_text, slash])
  have opened : startsWith (opener ++ (betweenMarks line).stripRight) opener = true :=
    List.isPrefixOf_iff_prefix.mpr (List.prefix_append _ _)
  simp only [closeWith, if_neg bare, cut, Option.map_some, Option.getD_some, body, left, opened,
    ↓reduceIte, List.drop_left, strip_stripRight]
  simp

theorem closeWith_emptyComment (empty : line.strip = emptyComment) :
    closeWith line tagLine = [line.indent ++ [('/' : CodePoint), ('*' : CodePoint)],
      line.indent ++ "* " ++ tagLine, line.indent ++ closer] := by
  have closes : line.strip.endsWith closer = true := by
    rw [empty]
    rfl
  have bare : line.strip ≠ closer := by
    rw [empty]
    decide
  obtain ⟨text, after, _, stripped, _, cut⟩ := exists_closing_parts closes
  obtain rfl : text = [('/' : CodePoint), ('*' : CodePoint)] := by
    rw [empty, emptyComment_text] at stripped
    exact (List.append_cancel_right stripped).symm
  have body : stripRight (line.indent ++ [('/' : CodePoint), ('*' : CodePoint)]) =
      line.indent ++ [('/' : CodePoint), ('*' : CodePoint)] :=
    stripRight_eq_self (last_append (by simp) (by decide))
  have left : stripLeft (line.indent ++ [('/' : CodePoint), ('*' : CodePoint)]) =
      [('/' : CodePoint), ('*' : CodePoint)] := by
    rw [stripLeft_append (indent_blank line)]
    rfl
  have plain : startsWith [('/' : CodePoint), ('*' : CodePoint)] opener = false := by rfl
  have visible : strip (line.indent ++ [('/' : CodePoint), ('*' : CodePoint)]) ≠ [] :=
    strip_ne_nil_of_mem (c := '*') (by simp) (by decide)
  have mark : ("*/" : Text) = closer := rfl
  simp only [closeWith, if_neg bare, cut, Option.map_some, Option.getD_some, body, left, plain,
    Bool.false_eq_true, ↓reduceIte, List.isEmpty_iff, visible, mark]
  simp

end

/-- The lines in place of a closing line are single lines. -/
theorem closeWith_free {closing tagLine : Text} (free : ('\n' : CodePoint) ∉ closing)
    (single : ('\n' : CodePoint) ∉ tagLine) :
    ∀ line ∈ closeWith closing tagLine, ('\n' : CodePoint) ∉ line := by
  have margin : ('\n' : CodePoint) ∉ closing.indent :=
    fun member => free (List.takeWhile_subset _ member)
  have text : ('\n' : CodePoint) ∉
      stripRight (((closing.cutLast? closer).map (·.1)).getD []) := by
    cases cut : closing.cutLast? closer with
    | none => simp [stripRight, dropTrailing]
    | some parts =>
      exact not_mem_of_isInfix
        ((stripRight_isPrefix _).isInfix.trans (cutLast?_isInfix cut)) free
  have content : ∀ n, ('\n' : CodePoint) ∉ strip (List.drop n
      (stripLeft (stripRight (((closing.cutLast? closer).map (·.1)).getD [])))) :=
    fun n => not_mem_of_isInfix ((strip_isInfix _).trans ((List.drop_suffix _ _).isInfix.trans
      (stripLeft_suffix _).isInfix)) text
  have star : ('\n' : CodePoint) ∉ ("* " : Text) := by simp
  have inset : ('\n' : CodePoint) ∉ (" * " : Text) := by simp
  have top : ('\n' : CodePoint) ∉ opener := by simp [opener]
  have bottom : ('\n' : CodePoint) ∉ ("*/" : Text) := by simp
  have bottom' : ('\n' : CodePoint) ∉ (" */" : Text) := by simp
  simp only [closeWith]
  split
  · simp [margin, star, single, free]
  · split
    · split <;> simp [margin, top, inset, single, bottom', content]
    · split <;> simp [margin, star, single, bottom, text]

/-! ### Where the block is found -/

/-- Lines directly above a line are found as the block there exactly if they make one. -/
theorem locateAt?_eq_iff (front : List Text) {new back : List Text} (more : back ≠ []) :
    locateAt? (front ++ new ++ back) (front.length + new.length) =
        some ⟨unlines new, front.length, front.length + new.length - 1⟩ ↔ BlockSpan new := by
  constructor
  · intro found
    obtain ⟨front', span, back', whole, _, count, isBlock, place⟩ := exists_blockSpan found
    obtain ⟨_, start, _⟩ := Location.mk.inj place
    obtain ⟨_, behind⟩ := List.append_inj (by simpa using whole) start
    obtain ⟨rfl, _⟩ := List.append_inj behind (by omega)
    exact isBlock
  · exact fun isBlock => locateAt?_append front isBlock more

/-- A text in place of a block is found as the block above the line that has moved with it. -/
def Location.FoundAs (block : Location) (lines : List Text) (t : Text) : Prop :=
  locateAt? (replaceLines lines block.firstLine block.lastLine t.lines)
      (block.firstLine + t.lines.length) =
    some ⟨t, block.firstLine, block.firstLine + t.lines.length - 1⟩

instance (block : Location) (lines : List Text) (t : Text) : Decidable (block.FoundAs lines t) :=
  inferInstanceAs (Decidable (_ = _))

theorem foundAs_iff (front : List Text) {span back : List Text} (nonempty : span ≠ [])
    (more : back ≠ []) (old t : Text) :
    Location.FoundAs ⟨old, front.length, front.length + span.length - 1⟩ (front ++ span ++ back) t ↔
      BlockSpan t.lines := by
  have some := List.length_pos_iff.mpr nonempty
  have reach : front.length + span.length - 1 + 1 = (front ++ span).length := by
    rw [List.length_append]
    omega
  have spliced : replaceLines (front ++ span ++ back) front.length (front.length + span.length - 1)
      t.lines = front ++ t.lines ++ back := by
    rw [replaceLines, reach, List.drop_left, List.append_assoc front, List.take_left]
  have same : unlines t.lines = t := join_splitAt _ t
  rw [← locateAt?_eq_iff front more, same, Location.FoundAs]
  simp only [spliced]

section

variable {line tagLine : Text}

theorem isInner_starred (margin text : Text) (blank : ∀ c ∈ margin, c.isBlank = true) :
    IsInner (margin ++ ("* " : Text) ++ text) := by
  have star : ('*' : CodePoint).isBlank = false := by decide
  have written : margin ++ ("* " : Text) ++ text =
      margin ++ ('*' : CodePoint) :: (' ' : CodePoint) :: text := by simp [ofString]
  rw [written]
  exact .inr (opensWith_strip blank star _)

/-- A star line, one column further in. -/
theorem starred_text (margin text : Text) :
    margin ++ (" * " : Text) ++ text = margin ++ (" " : Text) ++ ("* " : Text) ++ text := by
  simp [ofString]

theorem spaced_blank (t : Text) : ∀ c ∈ t.indent ++ (" " : Text), c.isBlank = true :=
  List.forall_mem_append.mpr ⟨indent_blank t, by decide⟩

/-- The lines in place of a line with both marks make a block, unless it is an empty comment. -/
theorem blockSpan_closeWith_iff (opens : line.strip.startsWith opener = true)
    (closes : line.strip.endsWith closer = true) :
    BlockSpan (closeWith line tagLine) ↔ line.strip ≠ emptyComment := by
  have blank := indent_blank line
  constructor
  · intro isBlock empty
    rw [closeWith_emptyComment tagLine empty] at isBlock
    obtain ⟨⟨first, head, opened⟩, _⟩ := isBlock.ends
    obtain rfl := Option.some.inj head
    have half : strip (line.indent ++ [('/' : CodePoint), ('*' : CodePoint)]) =
        [('/' : CodePoint), ('*' : CodePoint)] := by
      rw [strip, stripLeft_append blank]
      rfl
    rw [half] at opened
    revert opened
    decide
  · intro proper
    have parts := (oneLine_cases opens closes).resolve_left proper
    have top : strip (line.indent ++ opener) = opener := by
      rw [strip, stripLeft_append blank]
      rfl
    have bottom : strip (line.indent ++ " */") = closer := by
      rw [strip, stripLeft_append blank]
      rfl
    rw [closeWith_between tagLine parts]
    refine .several (by rw [top]; rfl) ?_ (by rw [bottom]; rfl) (by rw [bottom]; rfl)
    intro inner member
    have starred : ∀ text, IsInner (line.indent ++ (" * " : Text) ++ text) := by
      intro text
      rw [starred_text]
      exact isInner_starred _ text (spaced_blank line)
    rcases List.mem_append.mp member with content | tag
    · split at content
      · cases content
      · rw [List.mem_singleton.mp content]
        exact starred _
    · rw [List.mem_singleton.mp tag]
      exact starred _

end

/-! ### What is read -/

theorem listOf_parse_of_entries {t : Text} {entries : List (Text × Entry)}
    (read : (spoken (unmarked t)).filterMap entryOfLine? = entries) (tag : Text) :
    (parse t).listOf tag = (entries.filter fun pair => pair.1 = tag).map (·.2) := by
  rw [listOf_parse, filterMap_spoken, read]

theorem not_appended_of_lost {old new tag lost : Text} {entry other : Entry}
    (before : (spoken (unmarked old)).filterMap entryOfLine? = [(lost, other)])
    (after : (spoken (unmarked new)).filterMap entryOfLine? = [(tag, entry)]) :
    ¬Annotations.Appended (parse old) (parse new) tag entry := by
  intro appended
  have had := listOf_parse_of_entries before lost
  have has := listOf_parse_of_entries after lost
  by_cases same : lost = tag
  · have list := appended.list
    rw [← same, had, has, same] at list
    simp at list
  · have list := appended.others lost same
    rw [had, has] at list
    simp [Ne.symm same] at list

theorem filterMap_single (line : Text) :
    ([line].filter (!·.isEmpty)).filterMap entryOfLine? = (entryOfLine? line).toList := by
  cases line with
  | nil => rfl
  | cons c rest => cases found : entryOfLine? (c :: rest) <;> simp [found]

theorem entryOfLine?_plain {line : Text} (plain : line.opensWith '@' = false) :
    entryOfLine? line = none := by
  rw [entryOfLine?, tagLine?_plain plain]
  rfl

theorem dropStar_plain {line : Text} (plain : line.strip.opensWith '*' = false) :
    dropStar line = line.strip := by
  rw [dropStar]
  cases stripped : line.strip with
  | nil => rfl
  | cons c rest =>
    have other : c ≠ ('*' : CodePoint) := by simpa [stripped, opensWith] using plain
    exact if_neg other

section

variable {line : Text} (free : ('\n' : CodePoint) ∉ line)

include free

theorem betweenMarks_free : ('\n' : CodePoint) ∉ betweenMarks line := by
  have inside : betweenMarks line <:+: line :=
    (List.take_prefix _ _).isInfix.trans
      ((List.drop_suffix _ _).isInfix.trans (strip_isInfix line))
  exact not_mem_of_isInfix inside free

/-- Before the tag is added, the text between the marks is read without a star in front. -/
theorem spoken_oneLine (parts : line.strip = opener ++ betweenMarks line ++ closer) :
    spoken (unmarked line) = [dropStar (betweenMarks line)].filter (!·.isEmpty) := by
  obtain ⟨after, whole, blank⟩ := exists_indent_strip line
  have marked : line = line.indent ++ opener ++ betweenMarks line ++ closer ++ after := by
    rw [parts] at whole
    simpa using whole
  have inner := unmarked_between (indent_blank line) blank (betweenMarks line)
  rw [← marked] at inner
  rw [inner, spoken_strip, spoken_of_free (betweenMarks_free free)]

/-- Afterwards it is read as it is, in front of the tag. -/
theorem spoken_expanded (parts : line.strip = opener ++ betweenMarks line ++ closer)
    {tagLine : Text} (content : ContentLine tagLine) (proper : tagLine ≠ []) :
    spoken (unmarked (unlines (closeWith line tagLine))) =
      [(betweenMarks line).strip].filter (!·.isEmpty) ++ [tagLine] := by
  have margin := indent_blank line
  have tagged : spoken (line.indent ++ " * " ++ tagLine) = [tagLine] := by
    rw [starred_text]
    exact spoken_tagged (spaced_blank line) content.free content.toTrimmed proper
  have text : (if (betweenMarks line).strip.isEmpty then []
      else [line.indent ++ " * " ++ (betweenMarks line).strip]).flatMap spoken =
        [(betweenMarks line).strip].filter (!·.isEmpty) := by
    by_cases empty : (betweenMarks line).strip = []
    · simp [empty]
    · have inner : ('\n' : CodePoint) ∉ (betweenMarks line).strip :=
        not_mem_of_isInfix (strip_isInfix _) (betweenMarks_free free)
      rw [if_neg (by simpa using empty), List.flatMap_singleton, starred_text,
        spoken_tagged (spaced_blank line) inner (trimmed_strip _) empty]
      simp [empty]
  have nothing := spoken_of_blank (spaced_blank line)
  have bottom : line.indent ++ (" */" : Text) = line.indent ++ (" " : Text) ++ closer ++ [] := by
    simp [closer, ofString]
  have top : line.indent ++ opener = line.indent ++ opener ++ [] := by simp
  rw [closeWith_between tagLine parts, bottom, top, spoken_block margin (by simp),
    List.flatMap_append, List.flatMap_singleton, tagged, text, nothing, List.append_nil]
  rfl

end

section

variable {line : Text} (empty : line.strip = emptyComment)

include empty

theorem spoken_emptyComment : spoken (unmarked line) = [("/" : Text)] := by
  have slash : ("/" : Text) = [('/' : CodePoint)] := by simp [ofString]
  obtain ⟨after, whole, blank⟩ := exists_indent_strip line
  have marked : line = line.indent ++ (opener ++ (("/" : Text) ++ after)) := by
    rw [empty] at whole
    simpa [emptyComment, opener, ofString] using whole
  have opened : dropOpener line = ("/" : Text) ++ after := by
    rw [marked, dropOpener_append (indent_blank _), slash]
    exact stripLeft_eq_self (by simp; decide)
  have unclosed : dropCloser (("/" : Text) ++ after) = ("/" : Text) ++ after := by
    have right : stripRight (("/" : Text) ++ after) = ("/" : Text) := by
      rw [stripRight_append blank]
      rfl
    have open' : endsWith ("/" : Text) closer = false := by rfl
    simp only [dropCloser, right, open', Bool.false_eq_true, ↓reduceIte]
  rw [unmarked, opened, unclosed, spoken_append_right _ blank]
  rfl

/-- Afterwards half a mark is read in front of the tag. -/
theorem spoken_torn {tagLine : Text} (content : ContentLine tagLine) (proper : tagLine ≠ []) :
    spoken (unmarked (unlines (closeWith line tagLine))) = [("/*" : Text)] ++ [tagLine] := by
  have blank := indent_blank line
  have half : ("/*" : Text) = [('/' : CodePoint), ('*' : CodePoint)] := by simp [ofString]
  have cut : unlines (closeWith line tagLine) = line.indent ++ (("/*" : Text) ++
      ('\n' : CodePoint) :: unlines [line.indent ++ "* " ++ tagLine, line.indent ++ closer]) := by
    rw [closeWith_emptyComment tagLine empty, half]
    simp [unlines, join, newline]
  have opened : dropOpener (unlines (closeWith line tagLine)) =
      unlines (closeWith line tagLine) := by
    have solid : ('/' : CodePoint).isBlank = false := by decide
    have left : stripLeft (unlines (closeWith line tagLine)) = ("/*" : Text) ++
        ('\n' : CodePoint) :: unlines [line.indent ++ "* " ++ tagLine, line.indent ++ closer] := by
      rw [cut, stripLeft_append blank]
      exact stripLeft_eq_self (by simp [half, solid])
    have unopened : startsWith (("/*" : Text) ++ ('\n' : CodePoint) ::
        unlines [line.indent ++ "* " ++ tagLine, line.indent ++ closer]) opener = false := by
      rw [half, opener_text]
      rfl
    simp only [dropOpener, left, unopened, Bool.false_eq_true, ↓reduceIte]
  have closed : unlines (closeWith line tagLine) =
      unlines [line.indent ++ ("/*" : Text), line.indent ++ "* " ++ tagLine, line.indent] ++
        closer ++ [] := by
    rw [closeWith_emptyComment tagLine empty, half]
    simp [unlines, join]
  rw [unmarked, opened, closed, dropCloser_append_blank _ (by simp), spoken_stripRight,
    spoken_unlines]
  simp only [List.flatMap_cons, List.flatMap_nil, spoken_append_left blank, spoken_of_blank blank,
    spoken_tagged blank content.free content.toTrimmed proper]
  rfl

end

/-! ### The expanded block -/

section

variable {line tag value : Text} (free : ('\n' : CodePoint) ∉ line)
  (opens : line.strip.startsWith opener = true) (closes : line.strip.endsWith closer = true)
  (isTag : IsTag tag) (single : ('\n' : CodePoint) ∉ value)

include free opens closes

theorem addTag_oneLine :
    addTag line tag value = unlines (closeWith line (tagText tag value.strip)) := by
  have added : addTag (unlines ([] ++ [line])) tag value =
      unlines ([] ++ closeWith line (tagText tag value.strip)) :=
    addTag_unlines (by simpa using free) (by simpa using opens) closes
  exact added

include isTag single

/-- The entries of the line stay, and the new one comes last, unless the line hides a tag. -/
theorem appended_oneLine_iff :
    Annotations.Appended (parse line) (parse (addTag line tag value)) tag
      (Entry.ofValue tag value.strip) ↔ ¬HidesTag line := by
  have content := contentLine_written isTag single
  have proper := tagText_ne_nil tag value.strip
  rw [addTag_oneLine free opens closes]
  rcases oneLine_cases opens closes with empty | parts
  · have shown : ¬HidesTag line := by
      have nothing : betweenMarks line = [] := by
        rw [betweenMarks, empty]
        rfl
      rw [HidesTag, nothing]
      exact fun starred => absurd starred.1 (by decide)
    refine iff_of_true (appended_of_entries isTag (trimmed_strip value) ?_
      (spoken_torn empty content proper)) shown
    rw [spoken_emptyComment empty]
    rfl
  · have before := spoken_oneLine free parts
    have after := spoken_expanded free parts content proper
    by_cases starred : (betweenMarks line).strip.opensWith '*' = true
    · have silent : entryOfLine? (betweenMarks line).strip = none := by
        apply entryOfLine?_plain
        obtain ⟨rest, star⟩ := List.head?_eq_some_iff.mp (by simpa [opensWith] using starred)
        rw [star]
        rfl
      cases read : tagLine? (dropStar (betweenMarks line)) with
      | none =>
        refine iff_of_true (appended_of_entries isTag (trimmed_strip value) ?_ after) ?_
        · rw [before, filterMap_single, filterMap_single, silent, entryOfLine?, read]
          rfl
        · exact fun hidden => by simpa [read] using hidden.2
      | some pair =>
        have had : (spoken (unmarked line)).filterMap entryOfLine? =
            [(pair.1, Entry.ofValue pair.1 pair.2)] := by
          rw [before, filterMap_single, entryOfLine?, read]
          rfl
        have left :
            (spoken (unmarked (unlines (closeWith line (tagText tag value.strip))))).filterMap
              entryOfLine? = [(tag, Entry.ofValue tag value.strip)] := by
          rw [after, List.filterMap_append, filterMap_single, silent]
          simp [entryOfLine?_tagText isTag (trimmed_strip value)]
        exact iff_of_false (not_appended_of_lost had left) fun shown =>
          shown ⟨starred, by rw [read]; rfl⟩
    · have same : dropStar (betweenMarks line) = (betweenMarks line).strip :=
        dropStar_plain (by simpa using starred)
      rw [same] at before
      exact iff_of_true (appended_of_entries isTag (trimmed_strip value) (by rw [before]) after)
        fun hidden => starred hidden.1

/-- The lines with the tag make a block, unless the line is an empty comment. -/
theorem blockSpan_oneLine_iff :
    BlockSpan (addTag line tag value).lines ↔ line.strip ≠ emptyComment := by
  have written := contentLine_written isTag single
  rw [addTag_oneLine free opens closes,
    lines_unlines_of_free (closeWith_ne_nil _ _) (closeWith_free free written.free)]
  exact blockSpan_closeWith_iff opens closes

end

/-- A block of one line to which a tag is added is found again exactly if it is not an empty
comment, and has one more entry, the new one, exactly if its text does not hide a tag behind a
star. -/
theorem one_line_expanded {lines : List Text} {anchor : Int} {block : Location}
    (found : locate? lines anchor = some block) (whole : block.firstLine = block.lastLine)
    (free : ('\n' : CodePoint) ∉ block.text) {tag value : Text} (isTag : IsTag tag)
    (single : ('\n' : CodePoint) ∉ value) :
    (block.FoundAs lines (addTag block.text tag value) ↔ block.text.strip ≠ emptyComment) ∧
      (Annotations.Appended (parse block.text) (parse (addTag block.text tag value)) tag
        (Entry.ofValue tag value.strip) ↔ ¬HidesTag block.text) := by
  obtain ⟨index, located⟩ := exists_locateAt?_of_locate? found
  obtain ⟨front, span, back, rfl, more, rfl, isBlock, rfl⟩ := exists_blockSpan located
  cases isBlock with
  | several => simp at whole
  | @single line opens closes =>
    exact ⟨(foundAs_iff front (by simp) more line _).trans
        (blockSpan_oneLine_iff free opens closes isTag single),
      appended_oneLine_iff free opens closes isTag single⟩

/-- A documented variable above a property: the block is expanded, and both tags are read. -/
theorem one_line_expanded_sample :
    ∃ block, locate? ["<?php", "  /** @var int */", "  public $a;"] 2 = some block ∧
      block.firstLine = block.lastLine ∧
      addTag block.text "readonly" "" = "  /**\n   * @var int\n   * @readonly\n   */" ∧
      block.FoundAs ["<?php", "  /** @var int */", "  public $a;"]
        (addTag block.text "readonly" "") ∧
      Annotations.Appended (parse block.text) (parse (addTag block.text "readonly" "")) "readonly"
        (Entry.ofValue "readonly" ("" : Text).strip) := by
  have found : locate? ["<?php", "  /** @var int */", "  public $a;"] 2 =
      some ⟨"  /** @var int */", 1, 1⟩ := by decide +kernel
  have isTag : IsTag "readonly" := ⟨by decide +kernel, by decide +kernel⟩
  have single : ('\n' : CodePoint) ∉ ("" : Text) := by decide
  obtain ⟨again, appended⟩ := one_line_expanded found rfl (by decide +kernel) isTag single
  exact ⟨_, found, rfl, by decide +kernel, again.mpr (by decide +kernel),
    appended.mpr (by decide +kernel)⟩

/-- An empty comment is torn apart, and a star hides the tag that follows it. -/
theorem one_line_expanded_excludes :
    (locate? ["/**/", "f"] 1 = some ⟨"/**/", 0, 0⟩ ∧
        ¬Location.FoundAs ⟨"/**/", 0, 0⟩ ["/**/", "f"] (addTag "/**/" "return" "int")) ∧
      locate? ["/*** @return int */", "f"] 1 = some ⟨"/*** @return int */", 0, 0⟩ ∧
        (parse "/*** @return int */").listOf "return" = [{ type := some "int" }] ∧
        (parse (addTag "/*** @return int */" "see" "g")).listOf "return" = [] := by
  decide +kernel

end DocRepair.Docblock
