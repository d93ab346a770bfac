import DocRepair.Fixer.Annotate
import DocRepair.Proofs.Docblock.BlockEdit

/-!
The edit that adds a tag above a line, as an edit of lines.

Only the closing line of a block above gives way to new lines, or a new block comes directly above
the line. The new lines keep the line endings of the content but in one case: a new block whose
indentation ends in a carriage return, for a value with an empty line inside.
-/

namespace DocRepair

open Docblock Text

/-- Lines from one index up to another put in place by others. -/
structure LineEdit where
  cut : Nat
  resume : Nat
  inserted : List Text
  deriving DecidableEq, Repr

/-- The lines after an edit. -/
def LineEdit.apply (e : LineEdit) (lines : List Text) : List Text :=
  lines.take e.cut ++ e.inserted ++ lines.drop e.resume

theorem LineEdit.apply_mk (cut resume : Nat) (inserted lines : List Text) :
    LineEdit.apply ⟨cut, resume, inserted⟩ lines =
      lines.take cut ++ (inserted ++ lines.drop resume) := by
  simp [LineEdit.apply]

namespace Addition

/-- Whether the block above an index carries the tag already. -/
def isPresentAt (a : Addition) (lines : List Text) (index : Nat) : Bool :=
  match locateAt? lines index with
  | some block => a.present (parse block.text)
  | none => false

def editAt (a : Addition) (lines : List Text) (index : Nat) : LineEdit :=
  match locateAt? lines index with
  | some block =>
    ⟨block.lastLine, index,
      (closeWith ((lines[block.lastLine]?).getD []) (tagText a.tag a.value.strip)).flatMap
        Text.lines⟩
  | none => ⟨index, index, indentedBlock ((lines[index]?).getD []) a.tag a.value⟩

theorem insertAt?_eq (a : Addition) {lines : List Text} (index : Nat)
    (free : ∀ line ∈ lines, ('\n' : CodePoint) ∉ line) :
    a.insertAt? lines index =
      if a.isPresentAt lines index then none else some ((a.editAt lines index).apply lines) := by
  rw [insertAt?, isPresentAt, editAt]
  cases found : locateAt? lines index with
  | none => simp [LineEdit.apply]
  | some block =>
    obtain ⟨_, rfl, order, text, ⟨first, top, opens⟩, closing, bottom, closes⟩ :=
      locateAt?_above found
    have cutLast : (lines.take (block.lastLine + 1)).drop block.firstLine =
        (lines.take block.lastLine).drop block.firstLine ++ [closing] := by
      have before : block.lastLine < lines.length := (List.getElem?_eq_some_iff.mp bottom).1
      rw [List.take_add_one, bottom, Option.toList_some, List.drop_append_of_le_length]
      simp only [List.length_take]
      omega
    have inside : ∀ line ∈ (lines.take block.lastLine).drop block.firstLine ++ [closing],
        ('\n' : CodePoint) ∉ line := by
      rw [← cutLast]
      intro line member
      exact free line (List.mem_of_mem_take (List.mem_of_mem_drop member))
    have opening : ∃ line ∈ (lines.take block.lastLine).drop block.firstLine ++ [closing],
        line.strip.startsWith opener = true := by
      refine ⟨first, ?_, opens⟩
      rw [← cutLast]
      apply List.mem_of_getElem? (i := 0)
      rw [List.getElem?_drop, List.getElem?_take_of_lt (by omega)]
      simpa using top
    have joined : lines.take block.firstLine ++ (lines.take block.lastLine).drop block.firstLine =
        lines.take block.lastLine := by
      conv_rhs => rw [← List.take_append_drop block.firstLine (lines.take block.lastLine),
        List.take_take, Nat.min_eq_left order]
    have edited : replaceLines lines block.firstLine block.lastLine
          (addTag block.text a.tag a.value).lines =
        LineEdit.apply ⟨block.lastLine, block.lastLine + 1,
          (closeWith closing (tagText a.tag a.value.strip)).flatMap Text.lines⟩ lines := by
      rw [replaceLines, text, cutLast, lines_addTag inside opening closes, ← List.append_assoc,
        joined, LineEdit.apply]
    simp only [edited, bottom, Option.getD_some]

def index (a : Addition) : Nat := (a.line - 1).toNat

def editedLines (a : Addition) (content : Text) : List Text :=
  (a.editAt (fileLines content) a.index).apply (fileLines content)

def editedContent (a : Addition) (content : Text) : Text :=
  (LineEnding.detect content).join (a.editedLines content)

/-- How many lines of a new block above an index end in a carriage return: the empty lines of the
value, if the indentation ends so. -/
def strayReturns (a : Addition) (lines : List Text) (index : Nat) : Nat :=
  if (locateAt? lines index).isNone && endsInReturn ((lines[index]?).getD []).indent then
    (tagText a.tag a.value.strip).lines.count []
  else 0

/-- Of the lines of a new block only those that are all indentation can end in a carriage
return. -/
private theorem countP_newBlock (margin : Text) {first : Text} {rest : List Text}
    (proper : first ≠ []) (plain : ∀ piece ∈ first :: rest, endsInReturn piece = false) :
    ((opener :: (" * " ++ first) :: (rest ++ [(" */" : Text)])).map (margin ++ ·)).countP
        endsInReturn =
      if endsInReturn margin then rest.count [] else 0 := by
  have top := endsInReturn_append_opener margin
  have tag : endsInReturn (margin ++ (" * " ++ first)) = false := by
    rw [← List.append_assoc, endsInReturn_append _ proper]
    exact plain first (by simp)
  have bottom : endsInReturn (margin ++ " */") = false :=
    endsInReturn_append_of_not_mem _ (by simp) (by simp)
  have inner : (rest.map (margin ++ ·)).countP endsInReturn =
      if endsInReturn margin then rest.count [] else 0 := by
    induction rest with
    | nil => simp
    | cons piece more ih =>
      have later := ih fun other member => plain other (by
        rcases List.mem_cons.mp member with rfl | deeper <;> simp_all)
      by_cases empty : piece = []
      · rw [List.map_cons, List.countP_cons, later, empty, List.append_nil, List.count_cons]
        split <;> simp_all
      · rw [List.map_cons, List.countP_cons, later, endsInReturn_append _ empty,
          plain piece (by simp), List.count_cons]
        simp [empty]
  simp [top, tag, bottom, inner]

section

variable (a : Addition) {lines : List Text} (index : Nat)
  (free : ∀ line ∈ lines, ('\n' : CodePoint) ∉ line)

include free

/-- What an edit can do: the closing line of a block gives way to new lines, or a new block comes
directly above the index, indented as the line there. -/
theorem editAt_cases :
    (∃ closing new, (locateAt? lines index).isSome ∧ 0 < index ∧
      lines[index - 1]? = some closing ∧ Reclosed closing (tagText a.tag a.value.strip) new ∧
      (∀ line ∈ new, ('\n' : CodePoint) ∉ line) ∧
      a.editAt lines index = ⟨index - 1, index, new⟩) ∨
    ∃ first rest, locateAt? lines index = none ∧
      (tagText a.tag a.value.strip).lines = first :: rest ∧
      a.editAt lines index = ⟨index, index,
        (opener :: (" * " ++ first) :: (rest ++ [(" */" : Text)])).map
          (((lines[index]?).getD []).indent ++ ·)⟩ := by
  cases found : locateAt? lines index with
  | some block =>
    obtain ⟨_, rfl, _, _, _, closing, bottom, closes⟩ := locateAt?_above found
    refine .inl ⟨closing, (closeWith closing (tagText a.tag a.value.strip)).flatMap Text.lines, rfl,
      Nat.succ_pos _, bottom, ?_, ?_, ?_⟩
    · exact reclosed_closeWith _ (free closing (List.mem_of_getElem? bottom)) closes
    · intro line member
      obtain ⟨_, _, inside⟩ := List.mem_flatMap.mp member
      exact not_mem_of_mem_splitAt inside
    · simp [editAt, found, bottom]
  | none =>
    obtain ⟨first, rest, pieces, block⟩ := lines_addTag_nil a.tag a.value
    exact .inr ⟨first, rest, rfl, pieces, by rw [editAt, found, indentedBlock, block]⟩

theorem editAt_resume : (a.editAt lines index).resume = index := by
  rcases a.editAt_cases index free with ⟨_, _, _, _, _, _, _, same⟩ | ⟨_, _, _, _, same⟩ <;>
    rw [same]

/-- At most the line above the index is replaced, and only if a block ends there. -/
theorem editAt_cut :
    (a.editAt lines index).cut = if (locateAt? lines index).isSome then index - 1 else index := by
  rcases a.editAt_cases index free with
    ⟨_, _, found, _, _, _, _, same⟩ | ⟨_, _, missing, _, same⟩
  · rw [same, if_pos found]
  · rw [same, missing]
    rfl

theorem editAt_free : ∀ line ∈ (a.editAt lines index).inserted, ('\n' : CodePoint) ∉ line := by
  rcases a.editAt_cases index free with
    ⟨_, _, _, _, _, _, inside, same⟩ | ⟨first, rest, _, pieces, same⟩
  · rw [same]
    exact inside
  · have margin : ('\n' : CodePoint) ∉ ((lines[index]?).getD []).indent := by
      intro member
      have there := List.takeWhile_subset _ member
      cases place : lines[index]? with
      | none => simp [place] at there
      | some line => exact free line (List.mem_of_getElem? place) (by simpa [place] using there)
    have parts : ∀ piece ∈ first :: rest, ('\n' : CodePoint) ∉ piece := by
      rw [← pieces]
      exact fun piece member => not_mem_of_mem_splitAt member
    have openFree : ('\n' : CodePoint) ∉ opener := by simp [opener]
    have starFree : ('\n' : CodePoint) ∉ (" * " : Text) := by simp
    have closeFree : ('\n' : CodePoint) ∉ (" */" : Text) := by simp
    rw [same]
    simp only [List.map_cons, List.map_append, List.map_nil, List.mem_cons, List.mem_append,
      List.mem_map, List.not_mem_nil, or_false]
    rintro line (rfl | rfl | ⟨piece, member, rfl⟩ | rfl)
    · simp [margin, openFree]
    · simp [margin, starFree, parts first (by simp)]
    · simp [margin, parts piece (by simp [member])]
    · simp [margin, closeFree]

theorem editAt_longer :
    index < (a.editAt lines index).cut + (a.editAt lines index).inserted.length := by
  rcases a.editAt_cases index free with
    ⟨_, new, _, below, _, reclosed, _, same⟩ | ⟨_, _, _, _, same⟩
  · have several := reclosed.several
    rw [same]
    show index < index - 1 + new.length
    omega
  · rw [same]
    simp

/-- The lines above stay, and the line directly above keeps its indentation. -/
theorem editAt_above (inside : index < lines.length) :
    ((a.editAt lines index).apply lines).take (index - 1) = lines.take (index - 1) ∧
      (0 < index → (((a.editAt lines index).apply lines)[index - 1]?).map indent =
        (lines[index - 1]?).map indent) := by
  have reach : (lines.take (index - 1)).length = index - 1 := by
    rw [List.length_take]
    omega
  rcases a.editAt_cases index free with
    ⟨closing, new, _, below, bottom, reclosed, _, same⟩ | ⟨_, _, _, _, same⟩
  · obtain ⟨first, start, indented, _⟩ := reclosed.head
    obtain ⟨more, rfl⟩ : ∃ more, new = first :: more := by
      cases new with
      | nil => simp at start
      | cons line more => exact ⟨more, by simpa using start⟩
    rw [same, LineEdit.apply_mk]
    refine ⟨List.take_left' reach, fun _ => ?_⟩
    rw [bottom, List.getElem?_append_right (by omega), reach]
    simp [indented]
  · rw [same, LineEdit.apply_mk]
    have long : index - 1 ≤ (lines.take index).length := by
      rw [List.length_take]
      omega
    refine ⟨?_, fun below => ?_⟩
    · rw [List.take_append_of_le_length long, List.take_take, Nat.min_eq_left (by omega)]
    · rw [List.getElem?_append_left (by rw [List.length_take]; omega),
        List.getElem?_take_of_lt (by omega)]

/-- The new lines that end in a carriage return, where the value itself brings none. -/
theorem countP_editAt (above : ∀ line ∈ lines.dropLast, endsInReturn line = false)
    (inside : index < lines.length) (tagged : PlainLines (tagText a.tag a.value.strip)) :
    (a.editAt lines index).inserted.countP endsInReturn = a.strayReturns lines index := by
  rcases a.editAt_cases index free with
    ⟨closing, new, found, below, bottom, reclosed, _, same⟩ | ⟨first, rest, missing, pieces, same⟩
  · have before : closing ∈ lines.dropLast := by
      apply List.mem_of_getElem? (i := index - 1)
      rw [List.getElem?_dropLast, if_pos (by omega), bottom]
    have none : (locateAt? lines index).isNone = false := by
      rw [← Option.not_isSome, found]
      rfl
    rw [same, strayReturns, none, Bool.false_and, if_neg (by simp), List.countP_eq_zero]
    intro line member
    simp [reclosed.plain (above closing before) tagged line member]
  · have proper : first ≠ [] := by
      rintro rfl
      exact tagged.first (by simp [pieces])
    rw [same, countP_newBlock _ proper (pieces ▸ tagged.plain), strayReturns, missing, pieces,
      List.count_cons]
    simp [proper]

end

/-! ### Contents -/

theorem isPresentAt_zero (a : Addition) (lines : List Text) : a.isPresentAt lines 0 = false := by
  simp [isPresentAt, locateAt?]

/-- On the first line the tag always goes in, whatever the line endings. -/
theorem apply_first (a : Addition) (first : a.line = 1) (issue : Issue) (content : Text) :
    a.apply issue content =
      .success issue (a.editedContent content) (some a.description)
        ["Added " ++ tagText a.tag a.value ++ " at line " ++ Text.ofInt a.line] := by
  have top : a.index = 0 := by
    rw [index]
    omega
  have lines := List.length_pos_iff.mpr (fileLines_ne_nil content)
  have inside : ¬(a.line < 1 ∨ ((fileLines content).length : Int) < a.line) := by omega
  have own : (LineEnding.detect content).split content = fileLines content := rfl
  have place : (a.line - 1).toNat = a.index := rfl
  have nothing : locateAt? (fileLines content) 0 = none := by simp [locateAt?]
  simp only [Addition.apply, own, place, Bool.or_eq_true, decide_eq_true_eq, if_neg inside,
    insertAt?, top, nothing, editedContent, editedLines, editAt, LineEdit.apply]

theorem length_le_edited_first (a : Addition) (first : a.line = 1) (content : Text) :
    (fileLines content).length ≤ (a.editedLines content).length := by
  have top : a.index = 0 := by
    rw [index]
    omega
  simp [editedLines, editAt, top, locateAt?, LineEdit.apply]

section

variable (a : Addition) {content : Text}
  (free : ∀ line ∈ fileLines content, ('\n' : CodePoint) ∉ line)

include free

/-- Adding a tag to a content: it fails outside the file and where the tag is there already, and
otherwise makes the edit of the lines. -/
theorem apply_eq (issue : Issue) :
    a.apply issue content =
      if a.line < 1 ∨ ((fileLines content).length : Int) < a.line then
        .failure issue content ("Line " ++ Text.ofInt a.line ++ " is outside the file")
      else if a.isPresentAt (fileLines content) a.index then
        .failure issue content a.presentReason
      else
        .success issue (a.editedContent content) (some a.description)
          ["Added " ++ tagText a.tag a.value ++ " at line " ++ Text.ofInt a.line] := by
  have own : (LineEnding.detect content).split content = fileLines content := rfl
  have place : (a.line - 1).toNat = a.index := rfl
  simp only [Addition.apply, own, place, a.insertAt?_eq _ free, Bool.or_eq_true,
    decide_eq_true_eq, editedContent, editedLines]
  by_cases present : a.isPresentAt (fileLines content) a.index = true
  · simp only [present, ↓reduceIte]
  · simp only [present, Bool.false_eq_true, ↓reduceIte]

theorem edited_free : ∀ line ∈ a.editedLines content,
    ('\n' : CodePoint) ∉ line := by
  intro line member
  rw [editedLines, LineEdit.apply, List.mem_append, List.mem_append] at member
  rcases member with (above | inside) | below
  · exact free line (List.mem_of_mem_take above)
  · exact a.editAt_free a.index free line inside
  · exact free line (List.mem_of_mem_drop below)

theorem edited_length (inside : a.index < (fileLines content).length) :
    (a.editedLines content).length + a.index =
      (fileLines content).length + (a.editAt (fileLines content) a.index).cut +
        (a.editAt (fileLines content) a.index).inserted.length := by
  have cut := a.editAt_cut a.index free
  have low : (a.editAt (fileLines content) a.index).cut ≤ a.index := by
    rw [cut]
    split <;> omega
  rw [editedLines, LineEdit.apply, a.editAt_resume a.index free]
  simp only [List.length_append, List.length_take, List.length_drop]
  omega

theorem edited_ne_nil (inside : a.index < (fileLines content).length) :
    a.editedLines content ≠ [] := by
  intro nothing
  have longer := a.editAt_longer a.index free
  have length := a.edited_length free inside
  rw [nothing, List.length_nil] at length
  omega

/-- In a content with bare line feeds the carriage returns at line ends are the stray ones. -/
theorem countP_edited (bare : LineEnding.detect content = .lf)
    (inside : a.index < (fileLines content).length)
    (tagged : PlainLines (tagText a.tag a.value.strip)) :
    (a.editedLines content).dropLast.countP endsInReturn =
      a.strayReturns (fileLines content) a.index := by
  have plain := fileLines_plain bare
  have low : (a.editAt (fileLines content) a.index).cut ≤ a.index := by
    rw [a.editAt_cut a.index free]
    split <;> omega
  have above : ((fileLines content).take (a.editAt (fileLines content) a.index).cut).countP
      endsInReturn = 0 := by
    rw [List.countP_eq_zero]
    intro line member
    have early : line ∈ (fileLines content).dropLast := by
      rw [List.dropLast_eq_take]
      exact List.take_subset_take_left _ (by omega) member
    simp [plain line early]
  have below : ((fileLines content).drop a.index).dropLast.countP endsInReturn = 0 := by
    rw [List.countP_eq_zero]
    intro line member
    rw [List.dropLast_drop_eq_drop_dropLast] at member
    simp [plain line (List.mem_of_mem_drop member)]
  have more : (fileLines content).drop a.index ≠ [] := by
    simpa [List.drop_eq_nil_iff] using inside
  rw [editedLines, LineEdit.apply, a.editAt_resume a.index free,
    List.dropLast_append_of_ne_nil more, List.countP_append, List.countP_append, above, below,
    a.countP_editAt a.index free plain inside tagged]
  omega

/-- The edit keeps the line endings, if the value brings no carriage returns and a new block no
stray ones. -/
theorem detect_edited (inside : a.index < (fileLines content).length)
    (tagged : LineEnding.detect content = .lf → PlainLines (tagText a.tag a.value.strip))
    (keeps : LineEnding.detect content = .lf → a.strayReturns (fileLines content) a.index = 0) :
    LineEnding.detect (a.editedContent content) = LineEnding.detect content := by
  rw [editedContent]
  cases ending : LineEnding.detect content with
  | crlf =>
    have several := two_le_length_fileLines ending
    have longer := a.editAt_longer a.index free
    have length := a.edited_length free inside
    exact LineEnding.detect_join_crlf (by omega)
  | lf =>
    rw [LineEnding.detect_join_lf (a.edited_ne_nil free inside) (a.edited_free free),
      a.countP_edited free ending inside (tagged ending), keeps ending]

end

end Addition

end DocRepair
