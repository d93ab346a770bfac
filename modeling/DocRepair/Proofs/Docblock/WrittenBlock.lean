import DocRepair.Docblock.Block
import DocRepair.Proofs.Docblock.EntryValues
import DocRepair.Proofs.OrderedMap
import DocRepair.Proofs.Text.Pieces

/-!
Reading a block that has been built from tags and values.

The content lines of a block are trimmed and hold no line feed. A block that is built from such
lines gives them back, and with them the tags, the values and the description.
-/

namespace DocRepair.Docblock

open Text

/-- What the content lines of a block are: trimmed texts without line feeds. -/
structure ContentLine (line : Text) : Prop extends Trimmed line where
  free : ('\n' : CodePoint) ∉ line

theorem contentLine_nil : ContentLine [] := ⟨trimmed_nil, by simp⟩

/-! ### Lines without marks and stars -/

theorem contentLine_dropStar {line : Text} (free : ('\n' : CodePoint) ∉ line) :
    ContentLine (dropStar line) := by
  have trimmed := trimmed_strip line
  have inside := strip_isInfix line
  simp only [dropStar]
  cases stripped : line.strip with
  | nil => exact contentLine_nil
  | cons c rest =>
    rw [stripped] at trimmed inside
    have tail : rest <:+: line := (List.suffix_cons c rest).isInfix.trans inside
    by_cases star : c = ('*' : CodePoint)
    · simp only [star, ↓reduceIte]
      exact ⟨trimmed_stripLeft (last_of_suffix (List.suffix_cons c rest) trimmed.last),
        not_mem_of_isInfix ((stripLeft_suffix rest).isInfix.trans tail) free⟩
    · simp only [star, ↓reduceIte]
      exact ⟨trimmed, not_mem_of_isInfix inside free⟩

theorem contentLine_of_mem {t line : Text} (member : line ∈ contentLines t) :
    ContentLine line := by
  obtain ⟨raw, found, rfl⟩ := List.mem_map.mp member
  exact contentLine_dropStar (not_mem_of_mem_splitAt found)

theorem dropStar_strip (line : Text) : dropStar line.strip = dropStar line := by
  simp only [dropStar, (trimmed_strip line).strip_eq]

private theorem star_text (t : Text) :
    (" * " : Text) ++ t = (' ' : CodePoint) :: ('*' : CodePoint) :: (' ' : CodePoint) :: t := by
  simp [ofString]

def starLine (line : Text) : Text :=
  if line = [] then " *" else " * " ++ line

theorem dropStar_starLine {line : Text} (trimmed : Trimmed line) :
    dropStar (starLine line) = line := by
  have blank : (' ' : CodePoint).isBlank = true := by decide
  have plain : ('*' : CodePoint).isBlank = false := by decide
  by_cases empty : line = []
  · subst empty
    rfl
  · have left : stripLeft (" * " ++ line) = ('*' : CodePoint) :: (' ' : CodePoint) :: line := by
      simp [star_text, stripLeft, blank, plain]
    have right := stripRight_eq_self
      (last_append (s := [('*' : CodePoint)]) (by simp) (last_space empty trimmed.last))
    have stripped : strip (" * " ++ line) = ('*' : CodePoint) :: (' ' : CodePoint) :: line := by
      rw [strip, left]
      exact right
    simp [starLine, empty, dropStar, stripped, stripLeft_space trimmed.head]

theorem starLine_free {line : Text} (free : ('\n' : CodePoint) ∉ line) :
    ('\n' : CodePoint) ∉ starLine line := by
  have bare : ('\n' : CodePoint) ∉ (" *" : Text) := by simp
  have star : ('\n' : CodePoint) ∉ (" * " : Text) := by simp
  rw [starLine]
  split
  · exact bare
  · simp [star, free]

theorem starLine_solid (line : Text) : (starLine line).strip ≠ [] := by
  have bare : ('*' : CodePoint) ∈ (" *" : Text) := by simp
  have member : ('*' : CodePoint) ∈ starLine line := by
    rw [starLine]
    split
    · exact bare
    · simp [star_text]
  exact strip_ne_nil_of_mem member (by decide)

/-! ### Blocks made of starred lines -/

private theorem stripLeft_unlines {first : Text} (rest : List Text) (some : first.stripLeft ≠ []) :
    (unlines (first :: rest)).stripLeft = unlines (first.stripLeft :: rest) := by
  cases rest with
  | nil => rfl
  | cons next rest =>
    have more : next :: rest ≠ [] := by simp
    rw [unlines, unlines, join_cons _ first more, join_cons _ first.stripLeft more,
      List.append_assoc, stripLeft_append_of_ne_nil _ some, List.append_assoc]

private theorem stripRight_unlines (front : List Text) {last : Text} (some : last.stripRight ≠ []) :
    (unlines (front ++ [last])).stripRight = unlines (front ++ [last.stripRight]) := by
  by_cases empty : front = []
  · subst empty
    rfl
  · rw [unlines, unlines, join_append _ empty (by simp), join_append _ empty (by simp)]
    exact stripRight_append_of_ne_nil _ some

/-- White space around a text goes away with the white space around its lines, if no line is
blank. -/
theorem map_strip_lines_strip {body : List Text} (nonempty : body ≠ [])
    (free : ∀ line ∈ body, ('\n' : CodePoint) ∉ line) (solid : ∀ line ∈ body, line.strip ≠ []) :
    (lines (strip (unlines body))).map strip = body.map strip := by
  obtain ⟨first, rest, rfl⟩ := List.exists_cons_of_ne_nil nonempty
  have firstSolid := solid first (by simp)
  have left : first.stripLeft ≠ [] := by
    intro nothing
    exact firstSolid (by rw [strip, nothing]; rfl)
  -- The same lines without the white space in front of the first one, cut before the last.
  obtain ⟨front, last, cut⟩ : ∃ front last, first.stripLeft :: rest = front ++ [last] :=
    ⟨_, _, (List.dropLast_append_getLast (by simp)).symm⟩
  have same : (first :: rest).map strip = (front ++ [last]).map strip := by
    rw [← cut, List.map_cons, List.map_cons, strip_stripLeft]
  have lastSolid : last.strip ≠ [] := by
    intro blank
    have member : last.strip ∈ (first :: rest).map strip := by rw [same]; simp
    obtain ⟨line, found, stripped⟩ := List.mem_map.mp member
    exact solid line found (stripped.trans blank)
  have kept : ∀ line ∈ front ++ [last], ('\n' : CodePoint) ∉ line := by
    rw [← cut]
    intro line member
    rcases List.mem_cons.mp member with rfl | later
    · exact not_mem_of_isInfix (stripLeft_suffix first).isInfix (free first (by simp))
    · exact free line (by simp [later])
  have trimmedFree : ∀ line ∈ front ++ [last.stripRight], ('\n' : CodePoint) ∉ line := by
    intro line member
    rcases List.mem_append.mp member with earlier | final
    · exact kept line (by simp [earlier])
    · rw [List.mem_singleton.mp final]
      exact not_mem_of_isInfix (stripRight_isPrefix last).isInfix (kept last (by simp))
  rw [strip, stripLeft_unlines rest left, cut,
    stripRight_unlines front (stripRight_ne_nil lastSolid),
    lines_unlines_of_free (by simp) trimmedFree, same]
  simp [strip_stripRight]

theorem opener_text : opener = [('/' : CodePoint), ('*' : CodePoint), ('*' : CodePoint)] := by
  simp [opener, ofString]

theorem closer_text : closer = [('*' : CodePoint), ('/' : CodePoint)] := by
  simp [closer, ofString]

private theorem last_line_text : (" */" : Text) = (' ' : CodePoint) :: closer := by
  simp [closer, ofString]

theorem dropOpener_append {margin : Text} (blank : ∀ c ∈ margin, c.isBlank = true) (t : Text) :
    dropOpener (margin ++ (opener ++ t)) = t.stripLeft := by
  have plain : ('/' : CodePoint).isBlank = false := by decide
  have left : stripLeft (margin ++ (opener ++ t)) = opener ++ t := by
    rw [stripLeft_append blank]
    simp [opener_text, stripLeft, plain]
  have opens : startsWith (opener ++ t) opener = true :=
    List.isPrefixOf_iff_prefix.mpr (List.prefix_append _ _)
  simp only [dropOpener, left, opens, ↓reduceIte, List.drop_left]

theorem dropCloser_append (t : Text) : dropCloser (t ++ closer) = t.stripRight := by
  have slash : ('/' : CodePoint).isBlank = false := by decide
  have solid : ∀ c ∈ closer.getLast?, c.isBlank = false := by simp [closer_text, slash]
  have right : (t ++ closer).stripRight = t ++ closer :=
    stripRight_eq_self (last_append (by simp [closer_text]) solid)
  have closes : endsWith (t ++ closer) closer = true :=
    List.isSuffixOf_iff_suffix.mpr (List.suffix_append _ _)
  simp [dropCloser, right, closes]

/-- Without its marks a block is its body without the white space around it. -/
theorem dropCloser_dropOpener {body : List Text} (solid : ∀ line ∈ body, line.strip ≠ []) :
    dropCloser (dropOpener (unlines ([opener] ++ body ++ [(" */" : Text)]))) =
      strip (unlines body) := by
  have whole : unlines ([opener] ++ body ++ [(" */" : Text)]) =
      opener ++ ('\n' : CodePoint) :: unlines (body ++ [(" */" : Text)]) := by
    rw [List.append_assoc, List.singleton_append, unlines, join_cons _ _ (by simp)]
    simp [unlines, newline]
  have feed : ('\n' : CodePoint).isBlank = true := by decide
  have opened : dropOpener (unlines ([opener] ++ body ++ [(" */" : Text)])) =
      stripLeft (unlines (body ++ [(" */" : Text)])) := by
    rw [whole]
    simpa [stripLeft, feed] using dropOpener_append (List.forall_mem_nil _)
      (('\n' : CodePoint) :: unlines (body ++ [(" */" : Text)]))
  rw [opened]
  cases body with
  | nil => rfl
  | cons first rest =>
    have left : first.stripLeft ≠ [] := by
      intro nothing
      exact solid first (by simp) (by rw [strip, nothing]; rfl)
    have space : ∀ c ∈ [('\n' : CodePoint), (' ' : CodePoint)], c.isBlank = true := by decide
    have written : unlines (first.stripLeft :: rest ++ [(" */" : Text)]) =
        unlines (first.stripLeft :: rest) ++ [('\n' : CodePoint), (' ' : CodePoint)] ++ closer := by
      rw [unlines, join_append _ (by simp) (by simp), join, last_line_text]
      simp [unlines, newline]
    calc dropCloser (stripLeft (unlines (first :: rest ++ [(" */" : Text)])))
        = dropCloser (unlines (first.stripLeft :: rest ++ [(" */" : Text)])) := by
          rw [List.cons_append, stripLeft_unlines _ left, List.cons_append]
      _ = (unlines (first.stripLeft :: rest)).stripRight := by
          rw [written, dropCloser_append, stripRight_append space]
      _ = strip (unlines (first :: rest)) := by rw [strip, stripLeft_unlines rest left]

/-- The content lines of a block are the lines of its body without their stars. -/
theorem contentLines_block {body : List Text} (free : ∀ line ∈ body, ('\n' : CodePoint) ∉ line)
    (solid : ∀ line ∈ body, line.strip ≠ []) :
    contentLines (unlines ([opener] ++ body ++ [(" */" : Text)])) =
      if body = [] then [[]] else body.map dropStar := by
  rw [contentLines, dropCloser_dropOpener solid]
  split
  · rename_i empty
    subst empty
    rfl
  · rename_i nonempty
    have stars : ∀ ls : List Text, ls.map dropStar = (ls.map strip).map dropStar := by
      intro ls
      rw [List.map_map]
      exact List.map_congr_left fun line _ => (dropStar_strip line).symm
    rw [stars, map_strip_lines_strip nonempty free solid, ← stars]

/-! ### Lines with a tag -/

/-- A name that is read as a tag after an at sign: words with single hyphens between them. -/
structure IsTag (tag : Text) : Prop where
  head : tag.head?.any CodePoint.isWord = true
  whole : spanTag tag = (tag, [])

/-- Where a name ends once, it ends again before anything that does not go on with a name. -/
theorem spanTag_again (t next : Text) (ends : spanTag next = ([], next)) :
    spanTag ((spanTag t).1 ++ next) = ((spanTag t).1, next) := by
  fun_induction spanTag t with
  | case1 => exact ends
  | case2 c word =>
    cases next with
    | nil => simp [spanTag, word]
    | cons d rest => simp [spanTag, word, ends]
  | case3 c other => exact ends
  | case4 c d rest word tag after split ih =>
    rw [split] at ih
    have later : spanTag (tag ++ next) = (tag, next) := ih
    cases joined : tag ++ next with
    | nil =>
      obtain ⟨rfl, rfl⟩ := List.append_eq_nil_iff.mp joined
      simp [spanTag, word]
    | cons e more =>
      rw [joined] at later
      simp [spanTag, word, joined, later]
  | case5 c d rest other hyphen tag after split ih =>
    rw [split] at ih
    have later : spanTag (tag ++ next) = (tag, next) := ih
    rw [List.cons_append, List.cons_append, spanTag, if_neg other, if_pos hyphen, later]
  | case6 c d rest other plain => exact ends

theorem spanTag_append (t : Text) : (spanTag t).1 ++ (spanTag t).2 = t := by
  fun_induction spanTag t <;> simp_all

theorem spanTag_solid (t : Text) : ∀ c ∈ (spanTag t).1, c.isBlank = false := by
  have hyphen : ('-' : CodePoint).isBlank = false := by decide
  fun_induction spanTag t <;> simp_all [CodePoint.isBlank_of_isWord]

theorem IsTag.solid {tag : Text} (isTag : IsTag tag) : ∀ c ∈ tag, c.isBlank = false := by
  simpa [isTag.whole] using spanTag_solid tag

theorem tagText_nil (tag : Text) : tagText tag [] = ('@' : CodePoint) :: tag := by
  have same : ("@" : Text) = [('@' : CodePoint)] := by simp [ofString]
  simp [tagText, same]

theorem tagText_of_ne_nil (tag : Text) {value : Text} (nonempty : value ≠ []) :
    tagText tag value = ('@' : CodePoint) :: (tag ++ (' ' : CodePoint) :: value) := by
  have same : ("@" : Text) = [('@' : CodePoint)] := by simp [ofString]
  simp [tagText, same, space_text, nonempty]

theorem head_tagText (tag value : Text) : (tagText tag value).head? = some ('@' : CodePoint) := by
  by_cases empty : value = []
  · rw [empty, tagText_nil]
    rfl
  · rw [tagText_of_ne_nil tag empty]
    rfl

theorem tagLine?_tagText {tag value : Text} (isTag : IsTag tag) (trimmed : Trimmed value) :
    tagLine? (tagText tag value) = some (tag, value) := by
  obtain ⟨head, whole⟩ := isTag
  cases tag with
  | nil => simp at head
  | cons d rest =>
    have word : d.isWord = true := by simpa using head
    by_cases empty : value = []
    · subst empty
      simp [tagText_nil, tagLine?, word, whole]
    · have ends : spanTag ((' ' : CodePoint) :: value) = ([], (' ' : CodePoint) :: value) := by
        have space : (' ' : CodePoint).isWord = false := by decide
        have hyphen : (' ' : CodePoint) ≠ ('-' : CodePoint) := by decide
        cases value <;> simp [spanTag, space, hyphen]
      have again : spanTag (d :: (rest ++ (' ' : CodePoint) :: value)) =
          (d :: rest, (' ' : CodePoint) :: value) := by
        simpa [whole] using spanTag_again (d :: rest) _ ends
      have blank : (' ' : CodePoint).isBlank = true := by decide
      simp [tagText_of_ne_nil _ empty, tagLine?, word, again, blank, stripLeft_space trimmed.head]

theorem contentLine_tagText {tag value : Text} (isTag : IsTag tag) (content : ContentLine value) :
    ContentLine (tagText tag value) := by
  have nonempty : tag ≠ [] := by
    rintro rfl
    simpa using isTag.head
  have feed : ('\n' : CodePoint) ∉ tag := by
    intro member
    have solid := isTag.solid _ member
    revert solid
    decide
  have first : ('@' : CodePoint).isBlank = false := by decide
  have other : ('\n' : CodePoint) ≠ ('@' : CodePoint) := by decide
  have space : ('\n' : CodePoint) ≠ (' ' : CodePoint) := by decide
  have last : ∀ c ∈ tag.getLast?, c.isBlank = false :=
    fun c member => isTag.solid c (List.mem_of_getLast? member)
  by_cases empty : value = []
  · have written : tagText tag value = [('@' : CodePoint)] ++ tag := by
      rw [empty, tagText_nil, List.singleton_append]
    rw [written]
    exact ⟨trimmed_append (by simp) nonempty (by simpa using first) last, by simp [feed, other]⟩
  · have written : tagText tag value =
        [('@' : CodePoint)] ++ (tag ++ (' ' : CodePoint) :: value) :=
      tagText_of_ne_nil tag empty
    rw [written]
    refine ⟨trimmed_append (by simp) (by simp) (by simpa using first)
      (last_append (by simp) (last_space empty content.last)), ?_⟩
    simp [feed, other, space, content.free]

/-- What a line with a tag reads as: the name is a tag, and the value is a part of the line. -/
theorem tagLine?_eq_some {line tag value : Text} (content : ContentLine line)
    (read : tagLine? line = some (tag, value)) : IsTag tag ∧ ContentLine value := by
  match line, read with
  | c :: d :: rest, read =>
    simp only [tagLine?] at read
    split at read
    · rename_i marked
      have parts := spanTag_append (d :: rest)
      have whole : spanTag (spanTag (d :: rest)).1 = ((spanTag (d :: rest)).1, []) := by
        simpa using spanTag_again (d :: rest) [] rfl
      have head : (spanTag (d :: rest)).1.head?.any CodePoint.isWord = true := by
        cases rest <;> simp [spanTag, marked.2]
      split at read
      · rename_i name split
        rw [split] at whole head
        cases read
        exact ⟨⟨head, whole⟩, contentLine_nil⟩
      · rename_i name e after split
        rw [split] at whole head parts
        split at read
        · cases read
          have tail : e :: after <:+ c :: d :: rest :=
            List.IsSuffix.trans ⟨_, parts⟩ (List.suffix_cons c (d :: rest))
          exact ⟨⟨head, whole⟩, trimmed_stripLeft (last_of_suffix tail content.last),
            not_mem_of_isInfix ((stripLeft_suffix _).trans tail).isInfix content.free⟩
        · cases read
    · cases read

/-! ### Entries of a block -/

def entryOfLine? (line : Text) : Option (Text × Entry) :=
  (tagLine? line).map fun (tag, value) => (tag, Entry.ofValue tag value)

theorem parse_eq_pushAll (t : Text) :
    parse t =
      OrderedMap.pushAll (tagOrder.map (·, [])) ((contentLines t).filterMap entryOfLine?) := by
  rw [parse]
  generalize (tagOrder.map (·, []) : Annotations) = start
  induction contentLines t generalizing start with
  | nil => rfl
  | cons line rest ih =>
    rw [List.foldl_cons, ih]
    cases read : tagLine? line with
    | none => simp [Annotations.addLine, entryOfLine?, read]
    | some pair => simp [Annotations.addLine, entryOfLine?, read, OrderedMap.pushAll]

theorem listOf_parse (t tag : Text) :
    (parse t).listOf tag =
      (((contentLines t).filterMap entryOfLine?).filter fun pair => pair.1 = tag).map (·.2) := by
  have start : OrderedMap.listOf (tagOrder.map (·, ([] : List Entry))) tag = [] := by
    generalize tagOrder = known
    induction known with
    | nil => rfl
    | cons first rest ih =>
      by_cases same : first = tag
      · simp [OrderedMap.listOf, OrderedMap.get?, same]
      · simpa [OrderedMap.listOf, OrderedMap.get?, same] using ih
  rw [parse_eq_pushAll, OrderedMap.listOf_pushAll, start, List.nil_append]

theorem keys_parse (t : Text) :
    (parse t).keys =
      OrderedMap.withNew tagOrder (((contentLines t).filterMap entryOfLine?).map (·.1)) := by
  have start : OrderedMap.keys (tagOrder.map (·, ([] : List Entry))) = tagOrder := by
    simp [OrderedMap.keys, Function.comp_def]
  rw [parse_eq_pushAll, OrderedMap.keys_pushAll, start]

theorem tagOrder_nodup : tagOrder.Nodup := by
  simp [tagOrder, knownTags]

theorem isTag_of_mem_tagOrder : ∀ tag ∈ tagOrder, IsTag tag := by
  have known : ∀ tag ∈ tagOrder,
      tag.head?.any CodePoint.isWord = true ∧ spanTag tag = (tag, []) := by
    decide +kernel
  exact fun tag member => ⟨(known tag member).1, (known tag member).2⟩

/-! ### Blocks built from tags and values -/

/-- Values that can be written and read back: their tags are tags, and each stands on a line. -/
structure Writable (annotations : OrderedMap Text (List Text)) : Prop where
  unique : annotations.keys.Nodup
  tags : ∀ tag ∈ annotations.keys, IsTag tag
  values : ∀ tag, ∀ value ∈ annotations.listOf tag, ContentLine value

/-- A description that can be written and read back: a line that does not begin as a tag does. -/
structure Describable (text : Text) : Prop extends ContentLine text where
  nonempty : text ≠ []
  plain : text.opensWith '@' = false

/-- The tags of a block with their values, in the order in which they are written. -/
def writtenPairs (annotations : OrderedMap Text (List Text)) : List (Text × Text) :=
  (writingOrder annotations).flatMap fun tag => (annotations.listOf tag).map (tag, ·)

/-- The content lines of a block that is built: the description and an empty line, then the
tags. -/
def builtLines (annotations : OrderedMap Text (List Text)) (description : Option Text) :
    List Text :=
  description.elim [] ([·, []]) ++
    (writtenPairs annotations).map fun pair => tagText pair.1 pair.2

theorem writingOrder_isTag {annotations : OrderedMap Text (List Text)}
    (writable : Writable annotations) : ∀ tag ∈ writingOrder annotations, IsTag tag := by
  intro tag member
  rcases List.mem_append.mp member with known | other
  · exact isTag_of_mem_tagOrder tag known
  · exact writable.tags tag (List.mem_filter.mp other).1

theorem contentLine_of_mem_builtLines {annotations : OrderedMap Text (List Text)}
    {description : Option Text} (writable : Writable annotations)
    (describable : ∀ text ∈ description, Describable text) :
    ∀ line ∈ builtLines annotations description, ContentLine line := by
  intro line member
  rcases List.mem_append.mp member with above | below
  · cases description with
    | none => simp at above
    | some text =>
      obtain rfl | rfl : line = text ∨ line = [] := by simpa using above
      · exact (describable _ rfl).toContentLine
      · exact contentLine_nil
  · obtain ⟨⟨tag, value⟩, pair, rfl⟩ := List.mem_map.mp below
    simp only [writtenPairs, List.mem_flatMap, List.mem_map, Prod.mk.injEq] at pair
    obtain ⟨tag, known, value, found, rfl, rfl⟩ := pair
    exact contentLine_tagText (writingOrder_isTag writable tag known)
      (writable.values tag value found)

theorem create_eq_unlines (annotations : OrderedMap Text (List Text)) {description : Option Text}
    (describable : ∀ text ∈ description, Describable text) :
    create annotations description =
      unlines ([opener] ++ (builtLines annotations description).map starLine ++
        [(" */" : Text)]) := by
  have tags : ∀ tag value, starLine (tagText tag value) = " * " ++ tagText tag value := by
    intro tag value
    have nonempty : tagText tag value ≠ [] := by
      intro nothing
      simpa [nothing] using head_tagText tag value
    rw [starLine, if_neg nonempty]
  have pairs : ((writtenPairs annotations).map fun pair => tagText pair.1 pair.2).map starLine =
      (writingOrder annotations).flatMap fun tag =>
        (annotations.listOf tag).map fun value => " * " ++ tagText tag value := by
    simp [writtenPairs, List.map_flatMap, Function.comp_def, tags]
  cases description with
  | none => simp only [create, builtLines, List.map_append, pairs, Option.elim_none, List.map_nil,
      List.append_assoc]
  | some text =>
    have summary : ([text, []] : List Text).map starLine = [" * " ++ text, (" *" : Text)] := by
      simp [starLine, (describable text rfl).nonempty]
    simp only [create, builtLines, List.map_append, pairs, Option.elim_some, summary,
      List.append_assoc]

theorem contentLines_create {annotations : OrderedMap Text (List Text)}
    {description : Option Text} (writable : Writable annotations)
    (describable : ∀ text ∈ description, Describable text) :
    contentLines (create annotations description) =
      if builtLines annotations description = [] then [[]]
      else builtLines annotations description := by
  have content := contentLine_of_mem_builtLines writable describable
  have stars : ((builtLines annotations description).map starLine).map dropStar =
      builtLines annotations description := by
    rw [List.map_map]
    conv_rhs => rw [← List.map_id (builtLines annotations description)]
    exact List.map_congr_left fun line member => dropStar_starLine (content line member).toTrimmed
  rw [create_eq_unlines annotations describable, contentLines_block, stars]
  · simp only [List.map_eq_nil_iff]
  · intro line member
    obtain ⟨raw, found, rfl⟩ := List.mem_map.mp member
    exact starLine_free (content raw found).free
  · intro line member
    obtain ⟨raw, found, rfl⟩ := List.mem_map.mp member
    exact starLine_solid raw

section

variable {annotations : OrderedMap Text (List Text)} {description : Option Text}

theorem tagLine?_plain {line : Text} (plain : line.opensWith '@' = false) :
    tagLine? line = none := by
  match line with
  | [] => rfl
  | [_] => rfl
  | c :: d :: rest =>
    have other : c ≠ ('@' : CodePoint) := by simpa [opensWith] using plain
    simp [tagLine?, other]

private theorem mem_writtenPairs (writable : Writable annotations) {tag value : Text}
    (member : (tag, value) ∈ writtenPairs annotations) : IsTag tag ∧ ContentLine value := by
  simp only [writtenPairs, List.mem_flatMap, List.mem_map, Prod.mk.injEq] at member
  obtain ⟨tag, known, value, found, rfl, rfl⟩ := member
  exact ⟨writingOrder_isTag writable tag known, writable.values tag value found⟩

/-- A block that has been built holds the entries of its values, and nothing else. -/
theorem filterMap_entryOfLine?_create (writable : Writable annotations)
    (describable : ∀ text ∈ description, Describable text) :
    (contentLines (create annotations description)).filterMap entryOfLine? =
      (writtenPairs annotations).map fun pair => (pair.1, Entry.ofValue pair.1 pair.2) := by
  have tags : ((writtenPairs annotations).map fun pair => tagText pair.1 pair.2).filterMap
      entryOfLine? = (writtenPairs annotations).map fun pair =>
        (pair.1, Entry.ofValue pair.1 pair.2) := by
    rw [List.filterMap_map]
    conv_rhs => rw [← List.filterMap_eq_map]
    apply List.filterMap_congr
    rintro ⟨tag, value⟩ member
    obtain ⟨isTag, content⟩ := mem_writtenPairs writable member
    simp [entryOfLine?, tagLine?_tagText isTag content.toTrimmed]
  have above : (description.elim [] ([·, []])).filterMap entryOfLine? = [] := by
    cases description with
    | none => rfl
    | some text =>
      have plain := tagLine?_plain (describable text rfl).plain
      have blank : tagLine? [] = none := rfl
      simp [entryOfLine?, plain, blank]
  have built : (builtLines annotations description).filterMap entryOfLine? =
      (writtenPairs annotations).map fun pair => (pair.1, Entry.ofValue pair.1 pair.2) := by
    rw [builtLines, List.filterMap_append, above, tags, List.nil_append]
  rw [contentLines_create writable describable]
  split
  · rename_i empty
    rw [← built, empty]
    simp [entryOfLine?, tagLine?]
  · exact built

theorem writingOrder_nodup (unique : annotations.keys.Nodup) :
    (writingOrder annotations).Nodup := by
  apply List.nodup_append.mpr
  refine ⟨tagOrder_nodup, unique.filter _, ?_⟩
  intro tag known other member same
  subst same
  simpa [known] using (List.mem_filter.mp member).2

theorem listOf_parse_create (writable : Writable annotations)
    (describable : ∀ text ∈ description, Describable text) (tag : Text) :
    (parse (create annotations description)).listOf tag =
      (annotations.listOf tag).map (Entry.ofValue tag) := by
  have pairs : (writtenPairs annotations).filter (fun pair => pair.1 = tag) =
      (annotations.listOf tag).map (tag, ·) := by
    rw [writtenPairs, OrderedMap.filter_pairs (writingOrder_nodup writable.unique)]
    split
    · rfl
    · rename_i absent
      have empty : annotations.listOf tag = [] := by
        by_contra nonempty
        have key := OrderedMap.mem_keys_of_listOf_ne_nil nonempty
        by_cases known : tag ∈ tagOrder
        · exact absent (List.mem_append_left _ known)
        · exact absent (List.mem_append_right _ (List.mem_filter.mpr ⟨key, by simpa using known⟩))
      rw [empty, List.map_nil]
  rw [listOf_parse, filterMap_entryOfLine?_create writable describable, List.filter_map]
  simp only [Function.comp_def, pairs, List.map_map]

/-- The tags of a block that has been built: the known ones, then the others that have values, in
order. -/
theorem keys_parse_create_eq (writable : Writable annotations)
    (describable : ∀ text ∈ description, Describable text) :
    (parse (create annotations description)).keys =
      tagOrder ++ (annotations.keys.filter (!tagOrder.contains ·)).filter
        fun tag => !(annotations.listOf tag).isEmpty := by
  have order : ((writtenPairs annotations).map fun pair =>
      (pair.1, Entry.ofValue pair.1 pair.2)).map (·.1) =
      (writingOrder annotations).flatMap fun tag => (annotations.listOf tag).map fun _ => tag := by
    simp [writtenPairs, List.map_flatMap, Function.comp_def]
  have known : OrderedMap.withNew tagOrder
      (tagOrder.flatMap fun tag => (annotations.listOf tag).map fun _ => tag) = tagOrder := by
    apply OrderedMap.withNew_of_subset
    intro tag member
    simp only [List.mem_flatMap, List.mem_map] at member
    obtain ⟨tag, found, _, _, rfl⟩ := member
    exact found
  rw [keys_parse, filterMap_entryOfLine?_create writable describable, order, writingOrder,
    List.flatMap_append, OrderedMap.withNew_append, known]
  exact OrderedMap.withNew_flatMap annotations.listOf (writingOrder_nodup writable.unique)

theorem keys_parse_create (writable : Writable annotations)
    (describable : ∀ text ∈ description, Describable text)
    (nonempty : ∀ tag ∈ annotations.keys, annotations.listOf tag ≠ []) :
    (parse (create annotations description)).keys = writingOrder annotations := by
  rw [keys_parse_create_eq writable describable, List.filter_eq_self.mpr]
  · rfl
  · intro tag member
    simpa using nonempty tag (List.mem_filter.mp member).1

theorem opensWith_tagText (tag value : Text) : (tagText tag value).opensWith '@' = true := by
  rw [opensWith, head_tagText]
  rfl

theorem description?_create (writable : Writable annotations)
    (describable : ∀ text ∈ description, Describable text) :
    description? (create annotations description) = description := by
  have tags : ((writtenPairs annotations).map fun pair => tagText pair.1 pair.2).takeWhile
      (fun line => !line.opensWith '@') = [] := by
    cases writtenPairs annotations with
    | nil => rfl
    | cons pair rest => simp [opensWith_tagText]
  have nothing : opensWith [] '@' = false := rfl
  rw [description?, contentLines_create writable describable]
  cases description with
  | none =>
    by_cases empty : builtLines annotations none = []
    · simp [empty, nothing]
    · rw [if_neg empty, builtLines, Option.elim_none, List.nil_append, tags]
      rfl
  | some text =>
    obtain ⟨content, nonempty, plain⟩ := describable text rfl
    simp [builtLines, tags, plain, nothing, nonempty, join]

end

end DocRepair.Docblock
