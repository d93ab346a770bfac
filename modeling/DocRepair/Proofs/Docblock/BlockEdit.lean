import DocRepair.Docblock.Edit
import DocRepair.Proofs.Docblock.FoundBlock
import DocRepair.Proofs.Text.LineEndings

/-!
What adding a tag does to the lines of a block: all but the closing line stay, and the closing line
gives way to lines with the tag. Where a block is found depends on the lines above alone.
-/

namespace DocRepair.Docblock

open Text

/-! ### Finding the block -/

/-- A block that stands directly above a line: it ends there and begins with an opening mark. -/
structure Location.Above (block : Location) (lines : List Text) (anchor : Nat) : Prop where
  inside : anchor < lines.length
  last : block.lastLine + 1 = anchor
  order : block.firstLine ≤ block.lastLine
  text : block.text = unlines ((lines.take anchor).drop block.firstLine)
  opening : ∃ line, lines[block.firstLine]? = some line ∧ line.strip.startsWith opener = true
  closing : ∃ line, lines[block.lastLine]? = some line ∧ line.strip.endsWith closer = true

theorem locateAt?_above {lines : List Text} {anchor : Nat} {block : Location}
    (found : locateAt? lines anchor = some block) : block.Above lines anchor := by
  obtain ⟨front, span, back, rfl, more, rfl, isBlock, rfl⟩ := exists_blockSpan found
  obtain ⟨⟨first, head, opens⟩, last, final, closes⟩ := isBlock.ends
  have some : 0 < span.length :=
    List.length_pos_iff.mpr fun empty => by simp [empty] at head
  have behind := List.length_pos_iff.mpr more
  refine ⟨?_, ?_, ?_, ?_, ⟨first, ?_, opens⟩, ⟨last, ?_, closes⟩⟩
  · simp only [List.length_append]
    omega
  · show front.length + span.length - 1 + 1 = _
    omega
  · show front.length ≤ front.length + span.length - 1
    omega
  · rw [← List.length_append, List.take_left, List.drop_left]
  · rw [List.append_assoc, List.getElem?_append_right (Nat.le_refl _), Nat.sub_self,
      List.getElem?_append_left some, ← List.head?_eq_getElem?, head]
  · have place : front.length + span.length - 1 - front.length = span.length - 1 := by omega
    show (front ++ span ++ back)[front.length + span.length - 1]? = _
    rw [List.append_assoc, List.getElem?_append_right (by omega), place,
      List.getElem?_append_left (by omega), ← List.getLast?_eq_getElem?, final]

theorem exists_locateAt?_of_locate? {lines : List Text} {anchor : Int} {block : Location}
    (located : locate? lines anchor = some block) :
    ∃ index, locateAt? lines index = some block := by
  cases anchor with
  | ofNat index => exact ⟨index, located⟩
  | negSucc => cases located

/-- Only the lines above decide which block is found. -/
theorem locateAt?_congr {lines others : List Text} {anchor : Nat}
    (same : lines.take anchor = others.take anchor) (inside : anchor < lines.length)
    (inside' : anchor < others.length) : locateAt? lines anchor = locateAt? others anchor := by
  cases anchor with
  | zero => simp [locateAt?]
  | succ above =>
    simp only [locateAt?, inside, inside', ↓reduceIte, same, Location.ofLines,
      Nat.add_sub_cancel]

/-! ### The closing line -/

theorem splitAtCloser?_append (before : List Text) {closing : Text} {after : List Text}
    (closes : closing.holds closer = true) (last : ∀ line ∈ after, line.holds closer = false) :
    splitAtCloser? (before ++ closing :: after) = some (before, closing, after) := by
  have none : splitAtCloser? after = none := by
    induction after with
    | nil => rfl
    | cons line rest ih =>
      simp [splitAtCloser?, ih fun other member => last other (by simp [member]),
        last line (by simp)]
  induction before with
  | nil => simp [splitAtCloser?, none, closes]
  | cons line rest ih => simp [splitAtCloser?, ih]

theorem holds_of_strip_endsWith {line : Text} (closes : line.strip.endsWith closer = true) :
    line.holds closer = true := by
  rw [holds_iff_isInfix]
  exact (List.isSuffixOf_iff_suffix.mp closes).isInfix.trans (strip_isInfix line)

/-- Text without a line feed in front of a text goes to its first line. -/
theorem lines_append_of_free (front : Text) (free : ('\n' : CodePoint) ∉ front) (t : Text) :
    ∃ first rest, lines t = first :: rest ∧ lines (front ++ t) = (front ++ first) :: rest := by
  obtain ⟨first, rest, pieces⟩ := List.exists_cons_of_ne_nil (splitAt_ne_nil ('\n' : CodePoint) t)
  refine ⟨first, rest, pieces, ?_⟩
  induction front with
  | nil => exact pieces
  | cons c more ih =>
    have other : c ≠ ('\n' : CodePoint) := fun same => free (by simp [same])
    have later : splitAt '\n' (more ++ t) = (more ++ first) :: rest :=
      ih fun member => free (by simp [member])
    rw [lines, List.cons_append, splitAt, if_neg other, later]
    rfl

theorem closeWith_ne_nil (closing tagLine : Text) : closeWith closing tagLine ≠ [] := by
  simp only [closeWith]
  split
  · simp
  · split <;> simp

section

variable {before : List Text} {closing tag value : Text}
  (free : ∀ line ∈ before ++ [closing], ('\n' : CodePoint) ∉ line)
  (opening : ∃ line ∈ before ++ [closing], line.strip.startsWith opener = true)
  (closes : closing.strip.endsWith closer = true)

include free opening closes

theorem addTag_unlines :
    addTag (unlines (before ++ [closing])) tag value =
      unlines (before ++ closeWith closing (tagText tag value.strip)) := by
  have opened : (unlines (before ++ [closing])).holds opener = true := by
    obtain ⟨line, member, opens⟩ := opening
    rw [holds_iff_isInfix]
    have inside : line <:+: unlines (before ++ [closing]) := by
      apply infix_of_mem_splitAt ('\n' : CodePoint)
      rwa [← lines, lines_unlines_of_free (by simp) free]
    exact ((List.isPrefixOf_iff_prefix.mp opens).isInfix.trans (strip_isInfix line)).trans inside
  rw [addTag, if_pos opened, lines_unlines_of_free (by simp) free,
    splitAtCloser?_append before (holds_of_strip_endsWith closes) (by simp)]
  simp only [List.append_nil]

/-- Adding a tag leaves all lines of a block but the closing one. -/
theorem lines_addTag :
    (addTag (unlines (before ++ [closing])) tag value).lines =
      before ++ (closeWith closing (tagText tag value.strip)).flatMap lines := by
  have kept : before.flatMap lines = before := by
    have single : ∀ line ∈ before, lines line = [line] := fun line member =>
      lines_of_not_mem (free line (by simp [member]))
    rw [List.flatMap_congr single]
    simp
  rw [addTag_unlines free opening closes, lines_unlines (by simp [closeWith_ne_nil]),
    List.flatMap_append, kept]

end

theorem lines_addTag_nil (tag value : Text) :
    ∃ first rest, (tagText tag value.strip).lines = first :: rest ∧
      (addTag [] tag value).lines =
        opener :: (" * " ++ first) :: (rest ++ [(" */" : Text)]) := by
  have start : ("/**\n * " : Text) = opener ++ newline ++ (" * " : Text) := by
    simp [opener, newline, ofString]
  have finish : ("\n */" : Text) = newline ++ (" */" : Text) := by simp [newline, ofString]
  have missing : holds [] opener = false := by rfl
  have written : addTag [] tag value =
      unlines [opener, " * " ++ tagText tag value.strip, (" */" : Text)] := by
    rw [addTag, missing, if_neg (by simp), single, start, finish]
    simp [unlines, join]
  obtain ⟨first, rest, pieces, spread⟩ :=
    lines_append_of_free (" * " : Text) (by simp) (tagText tag value.strip)
  refine ⟨first, rest, pieces, ?_⟩
  have top : lines opener = [opener] := lines_of_not_mem (by simp [opener])
  have bottom : lines (" */" : Text) = [(" */" : Text)] := lines_of_not_mem (by simp)
  rw [written, lines_unlines (by simp)]
  simp only [List.flatMap_cons, List.flatMap_nil, top, spread, bottom]
  simp

/-- The last closing mark of a text is the one with only white space after it. -/
theorem cutLast?_closer (before : Text) {after : Text} (blank : ∀ c ∈ after, c.isBlank = true) :
    cutLast? (before ++ closer ++ after) closer = some (before, after) := by
  have absent : ('*' : CodePoint) ∉ ('/' : CodePoint) :: after := by
    intro member
    rcases List.mem_cons.mp member with same | later
    · revert same
      decide
    · have solid := blank _ later
      revert solid
      decide
  have last : cutLast? (closer ++ after) closer = some ([], after) := by
    rw [closer_text, List.cons_append, List.singleton_append, cutLast?, cutLast?_eq_none _ absent]
    simp
  have cut := cutLast?_append before last
  rwa [← List.append_assoc, List.append_nil] at cut

/-- A closing line is its indentation, the text of the line, the closing mark and white space. -/
theorem exists_closing_parts {closing : Text} (closes : closing.strip.endsWith closer = true) :
    ∃ text after, closing = closing.indent ++ text ++ closer ++ after ∧
      closing.strip = text ++ closer ∧ (∀ c ∈ after, c.isBlank = true) ∧
      closing.cutLast? closer = some (closing.indent ++ text, after) := by
  obtain ⟨after, whole, blank⟩ := exists_indent_strip closing
  obtain ⟨text, ends⟩ := List.isSuffixOf_iff_suffix.mp closes
  have parts : closing = closing.indent ++ text ++ closer ++ after := by
    rw [← ends] at whole
    simpa using whole
  have cut := cutLast?_closer (closing.indent ++ text) blank
  rw [← parts] at cut
  exact ⟨text, after, parts, ends.symm, blank, cut⟩

/-- The text that shares its line with the closing mark begins where the line does. -/
theorem exists_closing_body {closing : Text} (closes : closing.strip.endsWith closer = true)
    (other : closing.strip ≠ closer) :
    ∃ c more, c.isBlank = false ∧ closing.strip.head? = some c ∧
      stripRight (((closing.cutLast? closer).map (·.1)).getD []) = closing.indent ++ c :: more ∧
      closing.indent ++ c :: more <:+: closing ∧
      (closing.indent ++ c :: more).length < closing.length := by
  obtain ⟨text, after, whole, stripped, blank, cut⟩ := exists_closing_parts closes
  have proper : text ≠ [] := by
    rintro rfl
    exact other (by simpa using stripped)
  obtain ⟨c, rest, rfl⟩ := List.exists_cons_of_ne_nil proper
  have head : closing.strip.head? = some c := by simp [stripped]
  have solid : c.isBlank = false := (trimmed_strip closing).head c head
  have kept : stripRight (c :: rest) ≠ [] :=
    stripRight_ne_nil (strip_ne_nil_of_mem (by simp) solid)
  obtain ⟨more, shape⟩ : ∃ more, stripRight (c :: rest) = c :: more := by
    obtain ⟨d, more, found⟩ := List.exists_cons_of_ne_nil kept
    obtain ⟨back, same⟩ := found ▸ stripRight_isPrefix (c :: rest)
    obtain ⟨rfl, _⟩ : d = c ∧ more ++ back = rest := by simpa using same
    exact ⟨more, found⟩
  have body : stripRight (closing.indent ++ c :: rest) = closing.indent ++ c :: more := by
    rw [stripRight_append_of_ne_nil _ kept, shape]
  have front : closing.indent ++ c :: more <+: closing.indent ++ c :: rest :=
    body ▸ stripRight_isPrefix _
  refine ⟨c, more, solid, head, by simpa [cut] using body, ?_, ?_⟩
  · refine front.isInfix.trans ⟨[], closer ++ after, ?_⟩
    rw [List.nil_append, ← List.append_assoc, ← whole]
  · have total := congrArg List.length whole
    have mark : closer.length = 2 := by simp [closer_text]
    have bound := front.length_le
    simp only [List.length_append, mark] at bound total ⊢
    omega

/-- A text whose first line is not empty and none of whose lines ends in a carriage return. -/
structure PlainLines (t : Text) : Prop where
  first : t.lines.head? ≠ some []
  plain : ∀ line ∈ t.lines, endsInReturn line = false

/-- A written tag has plain lines, if no line feed follows a carriage return in its value. -/
theorem plainLines_tagText {tag value : Text} (solid : ∀ c ∈ tag, c.isBlank = false)
    (bare : value.holds "\r\n" = false) : PlainLines (tagText tag value.strip) := by
  have inner : value.strip.holds "\r\n" = false := by
    by_contra found
    rw [Bool.not_eq_false, holds_iff_isInfix] at found
    rw [(holds_iff_isInfix value _).mpr (found.trans (strip_isInfix value))] at bare
    cases bare
  have trimmed := trimmed_strip value
  have without : ('\r' : CodePoint) ∉ ('@' : CodePoint) :: tag := by
    intro member
    rcases List.mem_cons.mp member with same | inside
    · revert same
      decide
    · have blank := solid _ inside
      revert blank
      decide
  constructor
  · obtain ⟨rest, start⟩ := List.head?_eq_some_iff.mp (head_tagText tag value.strip)
    obtain ⟨first, others, _, spread⟩ :=
      lines_append_of_free [('@' : CodePoint)] (by decide) rest
    rw [start, ← List.singleton_append, spread]
    simp
  · by_cases empty : value.strip = []
    · rw [empty, tagText_nil]
      apply lines_plain
      · rw [← List.append_nil (_ :: tag), holds_pair_append without]
        rfl
      · apply endsInReturn_of_last
        intro c last
        rcases List.mem_cons.mp (List.mem_of_getLast? last) with rfl | inside
        · decide
        · exact solid c inside
    · rw [tagText_of_ne_nil tag empty]
      have spaced : ('\r' : CodePoint) ∉ ('@' : CodePoint) :: tag ++ [(' ' : CodePoint)] := by
        have space : ('\r' : CodePoint) ≠ (' ' : CodePoint) := by decide
        simpa [space] using without
      apply lines_plain
      · have joined := holds_pair_append spaced value.strip
        simpa [inner] using joined
      · exact endsInReturn_of_last
          (last_append (s := ('@' : CodePoint) :: tag) (by simp) (last_space empty trimmed.last))

/-- Lines that can take the place of a closing line: there are several, and the first one is new
but indented as the old line. -/
structure Reclosed (closing tagLine : Text) (new : List Text) : Prop where
  several : 2 ≤ new.length
  head : ∃ first, new.head? = some first ∧ first.indent = closing.indent ∧ first ≠ closing
  plain : endsInReturn closing = false → PlainLines tagLine →
    ∀ line ∈ new, endsInReturn line = false

/-- Lines above the tag, the tag behind a mark, and a closing line. -/
private theorem reclosed_of_parts {closing mark bottom : Text} (top : List Text) (tagLine : Text)
    (free : ∀ line ∈ top ++ [mark, bottom], ('\n' : CodePoint) ∉ line)
    (plain : endsInReturn closing = false → ∀ line ∈ top ++ [bottom], endsInReturn line = false)
    (head : ∀ first, ∃ line, (top ++ [mark ++ first]).head? = some line ∧
      line.indent = closing.indent ∧ line ≠ closing) :
    Reclosed closing tagLine ((top ++ [mark ++ tagLine, bottom]).flatMap lines) := by
  obtain ⟨first, rest, pieces, spread⟩ :=
    lines_append_of_free mark (free mark (by simp)) tagLine
  have above : top.flatMap lines = top := by
    have single : ∀ line ∈ top, lines line = [line] := fun line member =>
      lines_of_not_mem (free line (by simp [member]))
    rw [List.flatMap_congr single]
    simp
  have written : (top ++ [mark ++ tagLine, bottom]).flatMap lines =
      top ++ (mark ++ first) :: (rest ++ [bottom]) := by
    have below : lines bottom = [bottom] := lines_of_not_mem (free bottom (by simp))
    rw [List.flatMap_append, above, List.flatMap_cons, List.flatMap_cons, List.flatMap_nil,
      spread, below]
    simp
  rw [written]
  refine ⟨by simp; omega, ?_, ?_⟩
  · obtain ⟨line, there, indented, new⟩ := head first
    refine ⟨line, ?_, indented, new⟩
    cases top with
    | nil => simpa using there
    | cons other more => simpa using there
  · intro ends tagged line member
    have proper : first ≠ [] := by
      rintro rfl
      exact tagged.first (by simp [pieces])
    have inside : ∀ piece ∈ first :: rest, endsInReturn piece = false :=
      fun piece found => tagged.plain piece (by rwa [pieces])
    simp only [List.mem_append, List.mem_cons, List.not_mem_nil, or_false] at member
    rcases member with higher | rfl | later | rfl
    · exact plain ends line (by simp [higher])
    · rw [endsInReturn_append mark proper]
      exact inside first (by simp)
    · exact inside line (by simp [later])
    · exact plain ends line (by simp)

private theorem star_space : ("* " : Text) = [('*' : CodePoint), (' ' : CodePoint)] := by
  simp [ofString]

theorem endsInReturn_append_opener (front : Text) : endsInReturn (front ++ opener) = false :=
  endsInReturn_append_of_not_mem front (by simp [opener]) (by simp [opener])

private theorem free_indent {line : Text} (free : ('\n' : CodePoint) ∉ line) :
    ('\n' : CodePoint) ∉ line.indent :=
  fun member => free (List.takeWhile_subset _ member)

section

variable {closing : Text} (tagLine : Text) (free : ('\n' : CodePoint) ∉ closing)

include free

/-- A closing mark alone on its line stays, and the tag goes before it. -/
private theorem reclosed_bare (bare : closing.strip = closer) :
    Reclosed closing tagLine ([closing.indent ++ "* " ++ tagLine, closing].flatMap lines) := by
  obtain ⟨after, whole, _⟩ := exists_indent_strip closing
  have starFree : ('\n' : CodePoint) ∉ ("* " : Text) := by simp
  refine reclosed_of_parts [] tagLine ?_ (fun ends => by simpa using ends) fun first =>
    ⟨_, rfl, ?_, ?_⟩
  · simp [free_indent free, free, starFree]
  · rw [star_space]
    simpa using indent_append (indent_blank closing) (by decide) ((' ' : CodePoint) :: first)
  · intro same
    have other : (' ' : CodePoint) ≠ ('/' : CodePoint) := by decide
    rw [bare, closer_text, List.append_assoc] at whole
    rw [star_space, List.append_assoc] at same
    simpa [other] using List.append_cancel_left (same.trans whole)

/-- A closing mark on the line of the opening mark gets a line of its own, and so does the text
between them. -/
private theorem reclosed_opened (closes : closing.strip.endsWith closer = true) {content : Text}
    (trimmed : Trimmed content) (inside : content <:+: closing) :
    Reclosed closing tagLine (([closing.indent ++ opener] ++
      (if content.isEmpty then [] else [closing.indent ++ " * " ++ content]) ++
      [closing.indent ++ " * " ++ tagLine, closing.indent ++ " */"]).flatMap lines) := by
  have starFree : ('\n' : CodePoint) ∉ (" * " : Text) := by simp
  have openFree : ('\n' : CodePoint) ∉ opener := by simp [opener]
  have markFree : ('\n' : CodePoint) ∉ (" */" : Text) := by simp
  have openPlain := endsInReturn_append_opener closing.indent
  have markPlain : endsInReturn (closing.indent ++ " */") = false :=
    endsInReturn_append_of_not_mem _ (by simp) (by simp)
  have contentFree : ('\n' : CodePoint) ∉ content := fun member => free (inside.subset member)
  refine reclosed_of_parts _ tagLine ?_ (fun _ => ?_) fun first =>
    ⟨closing.indent ++ opener, rfl, ?_, ?_⟩
  · split <;> simp [free_indent free, starFree, openFree, markFree, contentFree]
  · split
    · simp [openPlain, markPlain]
    · rename_i nonempty
      have proper : content ≠ [] := by simpa using nonempty
      have contentPlain : endsInReturn (closing.indent ++ " * " ++ content) = false := by
        rw [endsInReturn_append _ proper, endsInReturn_of_last trimmed.last]
      simp only [List.append_assoc] at contentPlain ⊢
      simp [openPlain, markPlain, contentPlain]
  · rw [opener_text]
    exact indent_append (indent_blank closing) (by decide) _
  · intro same
    obtain ⟨after, whole, _⟩ := exists_indent_strip closing
    rw [List.append_assoc] at whole
    have ends : closer <:+: opener := by
      rw [List.append_cancel_left (same.trans whole)]
      exact (List.isSuffixOf_iff_suffix.mp closes).isInfix.trans (List.prefix_append _ _).isInfix
    have never : opener.holds closer = false := by rfl
    rw [(holds_iff_isInfix _ _).mpr ends] at never
    cases never

/-- A closing mark behind other text gets a line of its own. -/
private theorem reclosed_text {body : Text} (kept : body.indent = closing.indent)
    (shorter : body.length < closing.length) (inside : body <:+: closing)
    (last : ∀ c ∈ body.getLast?, c.isBlank = false) :
    Reclosed closing tagLine (([body] ++
      [closing.indent ++ "* " ++ tagLine, closing.indent ++ "*/"]).flatMap lines) := by
  have starFree : ('\n' : CodePoint) ∉ ("* " : Text) := by simp
  have markFree : ('\n' : CodePoint) ∉ ("*/" : Text) := by simp
  have bodyFree : ('\n' : CodePoint) ∉ body := fun member => free (inside.subset member)
  have markPlain : endsInReturn (closing.indent ++ "*/") = false :=
    endsInReturn_append_of_not_mem _ (by simp) (by simp)
  refine reclosed_of_parts [body] tagLine ?_ (fun _ => ?_) fun first =>
    ⟨body, rfl, kept, fun same => absurd (congrArg List.length same) (by omega)⟩
  · simp [free_indent free, starFree, markFree, bodyFree]
  · simp [endsInReturn_of_last last, markPlain]

end

/-- The lines that take the place of a closing line are such lines. -/
theorem reclosed_closeWith {closing : Text} (tagLine : Text)
    (free : ('\n' : CodePoint) ∉ closing) (closes : closing.strip.endsWith closer = true) :
    Reclosed closing tagLine ((closeWith closing tagLine).flatMap lines) := by
  by_cases bare : closing.strip = closer
  · simp only [closeWith, bare, ↓reduceIte]
    exact reclosed_bare tagLine free bare
  · obtain ⟨c, more, solid, _, body, inside, shorter⟩ := exists_closing_body closes bare
    have visible : strip (closing.indent ++ c :: more) ≠ [] :=
      strip_ne_nil_of_mem (c := c) (by simp) solid
    have last := last_stripRight (((closing.cutLast? closer).map (·.1)).getD [])
    rw [body] at last
    simp only [closeWith, bare, body, ↓reduceIte]
    split
    · exact reclosed_opened tagLine free closes (trimmed_strip _)
        ((strip_isInfix _).trans ((List.drop_suffix _ _).isInfix.trans
          ((stripLeft_suffix _).isInfix.trans inside)))
    · simp only [List.isEmpty_iff, visible, ↓reduceIte]
      exact reclosed_text tagLine free (indent_append (indent_blank closing) solid more) shorter
        inside last

/-- A text with white space in front of a solid code point strips to one that opens with it. -/
theorem opensWith_strip {front : Text} (blank : ∀ c ∈ front, c.isBlank = true) {c : CodePoint}
    (solid : c.isBlank = false) (rest : Text) :
    (strip (front ++ c :: rest)).opensWith c = true := by
  have left : stripLeft (front ++ c :: rest) = c :: rest := by
    rw [stripLeft_append blank]
    exact stripLeft_eq_self (by simpa using solid)
  have kept : stripRight (c :: rest) ≠ [] :=
    stripRight_ne_nil (strip_ne_nil_of_mem (by simp) solid)
  obtain ⟨d, more, found⟩ := List.exists_cons_of_ne_nil kept
  obtain ⟨back, same⟩ := found ▸ stripRight_isPrefix (c :: rest)
  obtain ⟨rfl, _⟩ : d = c ∧ more ++ back = rest := by simpa using same
  rw [strip, left, found]
  simp [opensWith]

/-- Where the closing line begins with a star, the lines in its place are inner lines and a closing
line. -/
theorem closeWith_starred {closing tagLine : Text} (starred : closing.strip.opensWith '*' = true)
    (closes : closing.strip.endsWith closer = true) (free : ('\n' : CodePoint) ∉ closing)
    (single : ('\n' : CodePoint) ∉ tagLine) :
    ∃ above bottom, closeWith closing tagLine = above ++ [bottom] ∧ above ≠ [] ∧
      (∀ line ∈ above, IsInner line) ∧ bottom.strip.endsWith closer = true ∧
      bottom.strip.startsWith opener = false ∧
      ∀ line ∈ above ++ [bottom], ('\n' : CodePoint) ∉ line := by
  have blank := indent_blank closing
  have margin := free_indent free
  have starFree : ('\n' : CodePoint) ∉ ("* " : Text) := by simp
  have markFree : ('\n' : CodePoint) ∉ ("*/" : Text) := by simp
  have star : ('*' : CodePoint).isBlank = false := by decide
  have tagged : IsInner (closing.indent ++ "* " ++ tagLine) := by
    rw [star_space]
    exact .inr (by simpa using opensWith_strip blank star ((' ' : CodePoint) :: tagLine))
  by_cases bare : closing.strip = closer
  · refine ⟨[closing.indent ++ "* " ++ tagLine], closing, by simp [closeWith, bare], by simp,
      by simpa using tagged, closes, startsWith_opener_of_opensWith_star starred, ?_⟩
    simp [margin, starFree, single, free]
  · obtain ⟨c, more, solid, head, body, inside, _⟩ := exists_closing_body closes bare
    obtain rfl : c = ('*' : CodePoint) := by simpa [opensWith, head] using starred
    have text : IsInner (closing.indent ++ ('*' : CodePoint) :: more) :=
      .inr (opensWith_strip blank star more)
    have textFree : ('\n' : CodePoint) ∉ closing.indent ++ ('*' : CodePoint) :: more :=
      fun member => free (inside.subset member)
    have visible : strip (closing.indent ++ ('*' : CodePoint) :: more) ≠ [] :=
      strip_ne_nil_of_mem (c := '*') (by simp) star
    have left : stripLeft (closing.indent ++ ('*' : CodePoint) :: more) =
        ('*' : CodePoint) :: more := by
      rw [stripLeft_append blank]
      exact stripLeft_eq_self (by simpa using star)
    have plain : startsWith (('*' : CodePoint) :: more) opener = false :=
      startsWith_opener_of_opensWith_star (by simp [opensWith])
    have bottom : strip (closing.indent ++ "*/") = closer := by
      rw [strip, stripLeft_append blank]
      rfl
    refine ⟨[closing.indent ++ ('*' : CodePoint) :: more, closing.indent ++ "* " ++ tagLine],
      closing.indent ++ "*/", ?_, by simp, ?_, by rw [bottom]; rfl, by rw [bottom]; rfl, ?_⟩
    · simp [closeWith, bare, body, left, plain, visible]
    · intro line member
      rcases List.mem_pair.mp member with rfl | rfl
      · exact text
      · exact tagged
    · intro line member
      rcases List.mem_append.mp member with above | last
      · rcases List.mem_pair.mp above with rfl | rfl
        · exact textFree
        · simp [margin, starFree, single]
      · rw [List.mem_singleton.mp last]
        simp [margin, markFree]

end DocRepair.Docblock
