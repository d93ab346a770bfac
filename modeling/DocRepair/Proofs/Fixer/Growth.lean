import DocRepair.Proofs.Fixer.PlannedEdit

/-!
Every success adds code points that are not white space.

This holds for all contents, whatever their line endings: an edit may take white space away, but it
keeps everything else and puts a mark or a type next to it.
-/

namespace DocRepair

open Docblock Text

namespace Text

/-- How many code points of a text are not white space. -/
def visible (t : Text) : Nat := t.countP fun c => !c.isBlank

@[simp] theorem visible_nil : visible [] = 0 := rfl

@[simp] theorem visible_append (s t : Text) : visible (s ++ t) = visible s + visible t :=
  List.countP_append

theorem visible_of_blank {t : Text} (blank : ∀ c ∈ t, c.isBlank = true) : visible t = 0 := by
  rw [visible, List.countP_eq_zero]
  intro c member
  simp [blank c member]

@[simp] theorem visible_indent (t : Text) : visible t.indent = 0 :=
  visible_of_blank (indent_blank t)

@[simp] theorem visible_stripLeft (t : Text) : visible t.stripLeft = visible t := by
  have front : visible (t.takeWhile CodePoint.isBlank) = 0 :=
    visible_of_blank fun c member => List.mem_takeWhile_imp member
  conv_rhs => rw [← List.takeWhile_append_dropWhile (p := CodePoint.isBlank) (l := t)]
  rw [visible_append, front, Nat.zero_add, stripLeft]

@[simp] theorem visible_stripRight (t : Text) : visible t.stripRight = visible t := by
  have reversed := visible_stripLeft t.reverse
  simp only [visible, stripLeft, List.countP_reverse] at reversed
  simp only [visible, stripRight, dropTrailing, List.countP_reverse, reversed]

@[simp] theorem visible_strip (t : Text) : visible t.strip = visible t := by
  simp [strip]

theorem visible_join {separator : Text} (blank : visible separator = 0) (pieces : List Text) :
    visible (join separator pieces) = visible pieces.flatten := by
  fun_induction join separator pieces with
  | case1 => rfl
  | case2 piece => simp
  | case3 piece rest => simp_all

theorem visible_newline : visible newline = 0 := rfl

theorem visible_lines (t : Text) : visible (lines t).flatten = visible t := by
  conv_rhs => rw [← join_splitAt ('\n' : CodePoint) t]
  exact (visible_join visible_newline (lines t)).symm

end Text

theorem LineEnding.visible_join (ending : LineEnding) (lines : List Text) :
    visible (ending.join lines) = visible lines.flatten := by
  have blank : visible ending.text = 0 := by
    cases ending <;> rfl
  exact Text.visible_join blank lines

theorem visible_fileLines (content : Text) :
    visible (fileLines content).flatten = visible content := by
  rw [← LineEnding.visible_join (LineEnding.detect content), join_fileLines]

/-! ### Docblocks -/

namespace Docblock

theorem visible_opener : visible opener = 3 := rfl

theorem visible_closer : visible closer = 2 := rfl

/-- A closing line to which a tag is added keeps what can be seen, up to its last closing mark. -/
theorem visible_closeWith {before after : Text} (tagLine : Text)
    (blank : ∀ c ∈ after, c.isBlank = true)
    (cut : cutLast? (before ++ closer ++ after) closer = some (before, after)) :
    visible (before ++ closer ++ after) <
      visible (closeWith (before ++ closer ++ after) tagLine).flatten := by
  have star : visible ("* " : Text) = 1 := rfl
  have spacedStar : visible (" * " : Text) = 1 := rfl
  have mark : visible ("*/" : Text) = 2 := rfl
  have spacedMark : visible (" */" : Text) = 2 := rfl
  have rest := visible_of_blank blank
  simp only [closeWith, cut, Option.map_some, Option.getD_some]
  split
  · simp only [List.flatten_cons, List.flatten_nil, visible_append, visible_nil, visible_indent,
      star]
    omega
  · split
    · rename_i opened
      obtain ⟨more, whole⟩ := List.isPrefixOf_iff_prefix.mp opened
      have front : visible before = 3 + visible more := by
        have total := visible_stripLeft before.stripRight
        rw [← whole, visible_append, visible_opener, visible_stripRight] at total
        exact total.symm
      have kept : visible more ≤
          visible (if (Text.strip more).isEmpty then []
            else [(before ++ closer ++ after).indent ++ (" * " : Text) ++
              Text.strip more]).flatten := by
        split
        · rename_i empty
          rw [← visible_strip more, List.isEmpty_iff.mp empty]
          simp
        · simp [spacedStar]
      rw [← whole, List.drop_left]
      simp only [List.flatten_append, List.flatten_cons, List.flatten_nil, visible_append,
        visible_nil, visible_indent, visible_opener, visible_closer, spacedStar, spacedMark]
        at kept ⊢
      omega
    · have kept : visible before ≤
          visible (if before.stripRight.strip.isEmpty then []
            else [before.stripRight]).flatten := by
        split
        · rename_i empty
          rw [← visible_stripRight before, ← visible_strip before.stripRight,
            List.isEmpty_iff.mp empty]
          simp
        · simp
      simp only [List.flatten_append, List.flatten_cons, List.flatten_nil, visible_append,
        visible_nil, visible_indent, visible_closer, star, mark]
      omega

/-- A block above an index begins with an opening mark and ends with a closing mark. -/
theorem Location.Above.text_parts {lines : List Text} {index : Nat} {block : Location}
    (above : block.Above lines index) : block.text.holds opener = true ∧
      ∃ before after, block.text = before ++ closer ++ after ∧ ∀ c ∈ after, c.isBlank = true := by
  obtain ⟨inside, last, order, text, ⟨first, top, opens⟩, closing, bottom, closes⟩ := above
  have ends : (lines.take index).drop block.firstLine =
      (lines.take block.lastLine).drop block.firstLine ++ [closing] := by
    rw [← last, List.take_add_one, bottom, Option.toList_some, List.drop_append_of_le_length]
    rw [List.length_take]
    omega
  constructor
  · have member : first ∈ (lines.take index).drop block.firstLine := by
      apply List.mem_of_getElem? (i := 0)
      rw [List.getElem?_drop, List.getElem?_take_of_lt (by omega)]
      exact top
    rw [holds_iff_isInfix, text]
    exact ((List.isPrefixOf_iff_prefix.mp opens).isInfix.trans (strip_isInfix first)).trans
      (isInfix_join_of_mem newline member)
  · obtain ⟨body, after, parts, _, blank, _⟩ := exists_closing_parts closes
    obtain ⟨front, whole⟩ : ∃ front, block.text = front ++ closing := by
      rw [text, ends]
      by_cases none : (lines.take block.lastLine).drop block.firstLine = []
      · exact ⟨[], by rw [none]; rfl⟩
      · exact ⟨_, by rw [unlines, join_append _ none (by simp)]; rfl⟩
    refine ⟨front ++ (closing.indent ++ body), after, ?_, blank⟩
    rw [whole]
    conv_lhs => rw [parts]
    simp

theorem visible_addTag {t before after : Text} (tag value : Text)
    (opened : t.holds opener = true) (parts : t = before ++ closer ++ after)
    (blank : ∀ c ∈ after, c.isBlank = true) : visible t < visible (addTag t tag value) := by
  have free : ('\n' : CodePoint) ∉ closer := by simp [closer]
  obtain ⟨above, left, front⟩ : ∃ above left, Text.lines before = above ++ [left] :=
    ⟨_, _, (List.dropLast_append_getLast (splitAt_ne_nil _ _)).symm⟩
  obtain ⟨right, below, back⟩ : ∃ right below, Text.lines after = right :: below :=
    List.exists_cons_of_ne_nil (splitAt_ne_nil _ _)
  have pieces : t.lines = above ++ (left ++ closer ++ right) :: below := by
    rw [parts]
    exact lines_between front back free
  have blankLine : ∀ line ∈ right :: below, ∀ c ∈ line, c.isBlank = true := by
    intro line member c inside
    rw [← back] at member
    exact blank c ((infix_of_mem_splitAt _ member).subset inside)
  have unclosed : ∀ line ∈ below, line.holds closer = false := by
    intro line member
    have star : ('*' : CodePoint) ∈ closer := by simp [closer]
    by_contra found
    rw [Bool.not_eq_false, holds_iff_isInfix] at found
    have blankStar := blankLine line (by simp [member]) _ (found.subset star)
    revert blankStar
    decide
  have closed : (left ++ closer ++ right).holds closer = true := by
    rw [holds_iff_isInfix]
    exact ⟨left, right, rfl⟩
  have line := visible_closeWith (tagText tag value.strip) (blankLine right (by simp))
    (cutLast?_closer left (blankLine right (by simp)))
  have total := visible_lines t
  rw [addTag, if_pos opened, pieces, splitAtCloser?_append above closed unclosed]
  simp only [unlines, visible_join visible_newline]
  rw [← total, pieces]
  simp only [List.flatten_append, List.flatten_cons, visible_append] at line ⊢
  omega

end Docblock

/-! ### Plans -/

theorem visible_replaceLines {lines : List Text} {index : Nat} {block : Location} {t : Text}
    (found : locateAt? lines index = some block) (grows : visible block.text < visible t) :
    visible lines.flatten <
      visible (replaceLines lines block.firstLine block.lastLine t.lines).flatten := by
  obtain ⟨inside, last, order, text, _, _⟩ := locateAt?_above found
  have whole : lines = lines.take block.firstLine ++
      (lines.take index).drop block.firstLine ++ lines.drop index := by
    have cut := List.take_append_drop block.firstLine (lines.take index)
    rw [List.take_take, Nat.min_eq_left (by omega)] at cut
    rw [cut, List.take_append_drop]
  rw [text, unlines, visible_join visible_newline] at grows
  rw [replaceLines, last]
  conv_lhs => rw [whole]
  simp only [List.flatten_append, visible_append, visible_lines]
  omega

theorem Addition.insertAt?_grows (a : Addition) {lines edited : List Text} {index : Nat}
    (done : a.insertAt? lines index = some edited) :
    visible lines.flatten < visible edited.flatten := by
  rw [insertAt?] at done
  split at done
  · rename_i block found
    split at done
    · cases done
    · cases done
      obtain ⟨opened, before, after, parts, blank⟩ := (locateAt?_above found).text_parts
      exact visible_replaceLines found (visible_addTag a.tag a.value opened parts blank)
  · cases done
    have block :
        0 < visible (indentedBlock ((lines[index]?).getD []) a.tag a.value).flatten := by
      obtain ⟨first, rest, _, written⟩ := lines_addTag_nil a.tag a.value
      rw [indentedBlock, written]
      simp only [List.map_cons, List.flatten_cons, visible_append, visible_opener]
      omega
    conv_lhs => rw [← List.take_append_drop index lines]
    simp only [List.flatten_append, visible_append]
    omega

theorem visible_inlineEdit {lines : List Text} {index : Nat} (name : Text)
    (inside : index < lines.length) :
    visible lines.flatten <
      visible ((inlineEdit lines index (Fixer.inlineBlock name)).apply lines).flatten := by
  have start : 0 < visible ("/** @var mixed " : Text) := by decide
  simp only [inlineEdit, LineEdit.apply]
  split
  · rename_i blank
    obtain ⟨line, there⟩ : ∃ line, lines[index - 1]? = some line :=
      ⟨_, List.getElem?_eq_getElem (by omega)⟩
    have front : lines.take index = lines.take (index - 1) ++ [line] := by
      have next : index - 1 + 1 = index := by omega
      rw [← next, List.take_add_one, there, Option.toList_some, Nat.add_sub_cancel]
    have nothing : visible line = 0 := by
      rw [there, Option.getD_some] at blank
      rw [← visible_strip, blank.2, visible_nil]
    conv_lhs => rw [← List.take_append_drop index lines, front]
    simp only [List.flatten_append, List.flatten_cons, List.flatten_nil, visible_append,
      visible_nil, Fixer.inlineBlock, nothing]
    omega
  · conv_lhs => rw [← List.take_append_drop index lines]
    simp only [List.flatten_append, List.flatten_cons, List.flatten_nil, visible_append,
      visible_nil, Fixer.inlineBlock]
    omega

/-- A plan that succeeds adds code points that can be seen. -/
theorem Plan.carryOut_grows {analyze : Analyzer} {issue : Issue} {content : Text} {p : Plan}
    (placed : p.Placed analyze issue content)
    (success : (p.carryOut issue content).isSuccess = true) :
    visible content < visible (p.carryOut issue content).content := by
  obtain ⟨edited, leaves, joined⟩ := carryOut_leaves success
  rw [joined, LineEnding.visible_join, ← visible_fileLines content]
  cases leaves with
  | @tag a _ _ done => exact a.insertAt?_grows done
  | @complete _ _ _ block stop =>
    obtain ⟨index, found⟩ := exists_locateAt?_of_locate? placed.2
    have grows : visible block.text <
        visible (block.text.take stop ++ "<mixed>" ++ block.text.drop stop) := by
      have mixed : visible ("<mixed>" : Text) = 7 := rfl
      have parts := congrArg visible (List.take_append_drop stop block.text)
      simp only [visible_append, mixed] at parts ⊢
      omega
    exact visible_replaceLines found grows
  | @inline _ variableName inside =>
    rw [insertInline_eq]
    exact visible_inlineEdit variableName inside

end DocRepair
