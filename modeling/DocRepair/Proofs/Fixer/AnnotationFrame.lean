import DocRepair.Proofs.Fixer.TagEdit

/-!
What adding a tag above a line leaves alone, and where the tag is found again.

The lines before the docblock and the lines from the declaration on stay as they are, the line
endings too. Above the moved declaration stands the docblock with the tag: the old one extended, or
a new one that says nothing else.
-/

namespace DocRepair

open Docblock Text

namespace Docblock

/-- The lines of a new block of one tag, behind a margin. -/
def newBlock (margin tag value : Text) : List Text :=
  [opener, " * " ++ tagText tag value.strip, " */"].map (margin ++ ·)

/-- Several lines, the last of which begins with a star. -/
def Location.IsStarClosed (block : Location) (lines : List Text) : Prop :=
  block.firstLine < block.lastLine ∧
    (lines[block.lastLine]?).any (fun line => line.strip.opensWith '*') = true

instance (block : Location) (lines : List Text) : Decidable (block.IsStarClosed lines) :=
  inferInstanceAs (Decidable (_ ∧ _))

theorem contentLine_written {tag value : Text} (isTag : IsTag tag)
    (single : ('\n' : CodePoint) ∉ value) : ContentLine (tagText tag value.strip) :=
  contentLine_tagText isTag
    ⟨trimmed_strip value, not_mem_of_isInfix (strip_isInfix value) single⟩

theorem tagText_ne_nil (tag value : Text) : tagText tag value ≠ [] := by
  intro nothing
  simpa [nothing] using head_tagText tag value

/-- A block of several lines whose last line begins with a star is a block again when a tag is added,
and not a shorter one. -/
theorem addTag_span {span : List Text} {last tag value : Text} (block : BlockSpan span)
    (several : 1 < span.length) (final : span.getLast? = some last)
    (starred : last.strip.opensWith '*' = true) (free : ∀ line ∈ span, ('\n' : CodePoint) ∉ line)
    (isTag : IsTag tag) (single : ('\n' : CodePoint) ∉ value) :
    BlockSpan (addTag (unlines span) tag value).lines ∧
      span.length ≤ (addTag (unlines span) tag value).lines.length := by
  cases block with
  | single => simp at several
  | @several first _ inner opens between closes separate =>
    rw [← List.cons_append] at final free ⊢
    rw [List.getLast?_concat] at final
    cases final
    obtain ⟨above, new, closing, some, inner', closes', separate', free'⟩ :=
      closeWith_starred starred closes (free last (by simp)) (contentLine_written isTag single).free
    have cut : (closeWith last (tagText tag value.strip)).flatMap lines = above ++ [new] := by
      rw [closing, List.flatMap_congr fun line member => lines_of_not_mem (free' line member),
        List.flatMap_singleton']
    have written : (addTag (unlines (first :: inner ++ [last])) tag value).lines =
        first :: ((inner ++ above) ++ [new]) := by
      rw [lines_addTag free ⟨first, by simp, opens⟩ closes, cut]
      simp
    rw [written]
    constructor
    · refine .several opens ?_ closes' separate'
      intro line member
      rcases List.mem_append.mp member with old | more
      · exact between line old
      · exact inner' line more
    · have longer := List.length_pos_iff.mpr some
      simp only [List.length_cons, List.length_append, List.length_nil]
      omega

section

variable {margin : Text} (blank : ∀ c ∈ margin, c.isBlank = true)

include blank

theorem newBlock_span (tag value : Text) : BlockSpan (newBlock margin tag value) := by
  have star : ('*' : CodePoint).isBlank = false := by decide
  have spaced : ∀ c ∈ margin ++ [(' ' : CodePoint)], c.isBlank = true := by
    have space : (' ' : CodePoint).isBlank = true := by decide
    simpa [or_imp, forall_and, space] using blank
  have top : strip (margin ++ opener) = opener := by
    rw [strip, stripLeft_append blank]
    rfl
  have bottom : strip (margin ++ " */") = closer := by
    rw [strip, stripLeft_append blank]
    rfl
  have inner : IsInner (margin ++ (" * " ++ tagText tag value.strip)) := by
    have written : margin ++ (" * " ++ tagText tag value.strip) =
        margin ++ [(' ' : CodePoint)] ++
          ('*' : CodePoint) :: ((' ' : CodePoint) :: tagText tag value.strip) := by
      simp [ofString]
    rw [written]
    exact .inr (opensWith_strip spaced star _)
  have span : BlockSpan ((margin ++ opener) ::
      ([margin ++ (" * " ++ tagText tag value.strip)] ++ [margin ++ " */"])) :=
    .several (by rw [top]; rfl) (by simpa using inner) (by rw [bottom]; rfl) (by rw [bottom]; rfl)
  exact span

variable {tag value : Text} (isTag : IsTag tag) (single : ('\n' : CodePoint) ∉ value)

include isTag single

theorem contentLines_newBlock :
    contentLines (unlines (newBlock margin tag value)) = [tagText tag value.strip] := by
  have content := contentLine_written isTag single
  have proper := tagText_ne_nil tag value.strip
  have star : ('*' : CodePoint).isBlank = false := by decide
  have gap : ∀ c ∈ ('\n' : CodePoint) :: (margin ++ [(' ' : CodePoint)]), c.isBlank = true := by
    have feed : ('\n' : CodePoint).isBlank = true := by decide
    have space : (' ' : CodePoint).isBlank = true := by decide
    simpa [or_imp, forall_and, feed, space] using blank
  rw [newBlock]
  generalize tagText tag value.strip = line at content proper ⊢
  have starred : Trimmed (('*' : CodePoint) :: (' ' : CodePoint) :: line) :=
    ⟨by simpa using star,
      last_append (s := [('*' : CodePoint)]) (by simp) (last_space proper content.last)⟩
  have whole : unlines ([opener, " * " ++ line, " */"].map (margin ++ ·)) =
      margin ++ (opener ++ (('\n' : CodePoint) :: (margin ++ [(' ' : CodePoint)]) ++
        (('*' : CodePoint) :: (' ' : CodePoint) :: line ++
          (('\n' : CodePoint) :: (margin ++ [(' ' : CodePoint)]) ++ closer)))) := by
    simp [unlines, join, newline, ofString, closer]
  have opened : dropOpener (unlines ([opener, " * " ++ line, " */"].map (margin ++ ·))) =
      ('*' : CodePoint) :: (' ' : CodePoint) :: line ++
        ('\n' : CodePoint) :: (margin ++ [(' ' : CodePoint)]) ++ closer := by
    rw [whole, dropOpener_append blank, stripLeft_append gap, ← List.append_assoc]
    exact stripLeft_eq_self (by simpa using star)
  have free : ('\n' : CodePoint) ∉ ('*' : CodePoint) :: (' ' : CodePoint) :: line := by
    have other : ('\n' : CodePoint) ≠ ('*' : CodePoint) := by decide
    have space : ('\n' : CodePoint) ≠ (' ' : CodePoint) := by decide
    simp [other, space, content.free]
  rw [contentLines, opened, dropCloser_append, stripRight_append gap,
    stripRight_eq_self starred.last, lines_of_not_mem free]
  simp [dropStar, starred.strip_eq, stripLeft_space content.head]

theorem listOf_parse_newBlock (other : Text) :
    (parse (unlines (newBlock margin tag value))).listOf other =
      if other = tag then [Entry.ofValue tag value.strip] else [] := by
  have entry : [tagText tag value.strip].filterMap entryOfLine? =
      [(tag, Entry.ofValue tag value.strip)] := by
    simp [entryOfLine?, tagLine?_tagText isTag (trimmed_strip value)]
  rw [listOf_parse, contentLines_newBlock blank isTag single, entry]
  by_cases same : tag = other
  · simp [same]
  · simp [same, Ne.symm same]

end

end Docblock

namespace Addition

/-- What adding a tag leaves of a content: the line endings stay, and so do the lines from the
declaration on, which have moved down by the added lines. A docblock above it is found on its old
first line, extended by the tag, and the lines before it stay; where there was none, all lines above
stay, and the docblock that is found is a new one with the tag alone. -/
structure Annotated (a : Addition) (content edited : Text) (added : Nat) : Prop where
  ending : LineEnding.detect edited = LineEnding.detect content
  length : (fileLines edited).length = (fileLines content).length + added
  below : (fileLines edited).drop (a.index + added) = (fileLines content).drop a.index
  extended : ∀ block ∈ locateAt? (fileLines content) a.index,
    (fileLines edited).take block.firstLine = (fileLines content).take block.firstLine ∧
      locateAt? (fileLines edited) (a.index + added) =
        some ⟨addTag block.text a.tag a.value, block.firstLine, a.index + added - 1⟩
  created : locateAt? (fileLines content) a.index = none →
    (fileLines edited).take a.index = (fileLines content).take a.index ∧ added = 3 ∧
      ∃ block, block = newBlock ((fileLines content)[a.index]?.getD []).indent a.tag a.value ∧
        locateAt? (fileLines edited) (a.index + added) =
          some ⟨unlines block, a.index, a.index + added - 1⟩ ∧
        ∀ tag, (parse (unlines block)).listOf tag =
          if tag = a.tag then [Entry.ofValue a.tag a.value.strip] else []

section

variable (a : Addition) (isTag : IsTag a.tag) (single : ('\n' : CodePoint) ∉ a.value)

include isTag single

theorem indentedBlock_eq (anchor : Text) :
    indentedBlock anchor a.tag a.value = newBlock anchor.indent a.tag a.value := by
  obtain ⟨first, rest, pieces, written⟩ := lines_addTag_nil a.tag a.value
  rw [lines_of_not_mem (contentLine_written isTag single).free] at pieces
  cases pieces
  rw [indentedBlock, written, newBlock]
  rfl

/-- Adding a tag puts a block in place of another one, or of nothing, directly above a line. -/
theorem exists_splice {lines edited : List Text} {index : Nat}
    (free : ∀ line ∈ lines, ('\n' : CodePoint) ∉ line) (inside : index < lines.length)
    (closed : ∀ block ∈ locateAt? lines index, block.IsStarClosed lines)
    (done : a.insertAt? lines index = some edited) :
    ∃ front old new back, lines = front ++ old ++ back ∧ edited = front ++ new ++ back ∧
      back ≠ [] ∧ index = front.length + old.length ∧ old.length ≤ new.length ∧ BlockSpan new ∧
      (∀ block ∈ locateAt? lines index,
        block.firstLine = front.length ∧ unlines new = addTag block.text a.tag a.value) ∧
      (locateAt? lines index = none →
        old = [] ∧ new = newBlock (lines[index]?.getD []).indent a.tag a.value) := by
  rw [insertAt?] at done
  cases found : locateAt? lines index with
  | none =>
    simp only [found] at done
    cases done
    refine ⟨lines.take index, [], newBlock (lines[index]?.getD []).indent a.tag a.value,
      lines.drop index, by simp, by rw [a.indentedBlock_eq isTag single], by simpa using inside,
      by simp [Nat.min_eq_left (Nat.le_of_lt inside)], by simp,
      newBlock_span (indent_blank _) _ _, by simp, fun _ => ⟨rfl, rfl⟩⟩
  | some block =>
    obtain ⟨several, starred⟩ := closed block found
    obtain ⟨front, span, back, rfl, more, rfl, isBlock, rfl⟩ := exists_blockSpan found
    obtain ⟨_, last, final, _⟩ := isBlock.ends
    simp only at several starred
    have count : front.length + span.length - 1 + 1 = (front ++ span).length := by
      rw [List.length_append]
      omega
    have place : (front ++ span ++ back)[front.length + span.length - 1]? = some last := by
      have there : front.length + span.length - 1 - front.length = span.length - 1 := by omega
      rw [List.append_assoc, List.getElem?_append_right (by omega), there,
        List.getElem?_append_left (by omega), ← List.getLast?_eq_getElem?, final]
    rw [place] at starred
    obtain ⟨again, longer⟩ := addTag_span isBlock (by omega) final starred
      (fun line member => free line (by simp [member])) isTag single
    simp only [found] at done
    split at done
    · cases done
    · cases done
      refine ⟨front, span, (addTag (unlines span) a.tag a.value).lines, back, rfl, ?_, more, rfl,
        longer, again, ?_, by simp⟩
      · rw [replaceLines, count, List.drop_left, List.append_assoc front, List.take_left]
      · rintro _ ⟨⟩
        exact ⟨rfl, join_splitAt _ _⟩

end

/-- Adding a tag of one line keeps the line endings. -/
theorem detect_edited_of_single (a : Addition) {content : Text} (uniform : UniformEndings content)
    (inside : a.index < (fileLines content).length) (isTag : IsTag a.tag)
    (single : ('\n' : CodePoint) ∉ a.value) :
    LineEnding.detect (a.editedContent content) = LineEnding.detect content := by
  have bare : a.value.holds "\r\n" = false := by
    by_contra found
    rw [Bool.not_eq_false, holds_iff_isInfix, pair_text] at found
    exact single (found.subset (by simp))
  refine a.detect_edited uniform.free inside (fun _ => plainLines_tagText isTag.solid bare)
    fun _ => ?_
  have solid : [tagText a.tag a.value.strip].count [] = 0 :=
    List.count_eq_zero.mpr (by simpa using (tagText_ne_nil a.tag a.value.strip).symm)
  rw [strayReturns, lines_of_not_mem (contentLine_written isTag single).free, solid, ite_self]

/-- The edit of a tag that is not there yet leaves all but the docblock, where the tag is found. -/
theorem exists_annotated (a : Addition) {content : Text} (uniform : UniformEndings content)
    (isTag : IsTag a.tag) (single : ('\n' : CodePoint) ∉ a.value)
    (closed : ∀ block ∈ locateAt? (fileLines content) a.index,
      block.IsStarClosed (fileLines content))
    (inside : a.index < (fileLines content).length)
    (absent : ¬a.isPresentAt (fileLines content) a.index = true) :
    ∃ added, a.Annotated content (a.editedContent content) added := by
  have free := uniform.free
  have ending := a.detect_edited_of_single uniform inside isTag single
  have lines : fileLines (a.editedContent content) = a.editedLines content :=
    fileLines_join (a.edited_ne_nil free inside) (a.edited_free free) ending
  have done : a.insertAt? (fileLines content) a.index = some (a.editedLines content) := by
    rw [a.insertAt?_eq _ free, if_neg absent]
    rfl
  obtain ⟨front, old, new, back, before, after, more, place, longer, block, extended, created⟩ :=
    a.exists_splice isTag single free inside closed done
  have moved : a.index + (new.length - old.length) = (front ++ new).length := by
    rw [List.length_append]
    omega
  have found : locateAt? (front ++ new ++ back) (front ++ new).length =
      some ⟨unlines new, front.length, (front ++ new).length - 1⟩ := by
    simpa using locateAt?_append front block more
  have start : (front ++ old).length = a.index := by rw [List.length_append, place]
  refine ⟨new.length - old.length, ending, ?_, ?_, fun old located => ?_, fun missing => ?_⟩
  · rw [lines, before, after]
    simp only [List.length_append]
    omega
  · rw [lines, moved, after, List.drop_left, before, ← start, List.drop_left]
  · obtain ⟨first, text⟩ := extended old located
    rw [lines, moved, after, found, before, first, text]
    simp
  · obtain ⟨rfl, fresh⟩ := created missing
    have first : front.length = a.index := by simpa using start
    refine ⟨?_, by rw [fresh]; rfl, new, fresh, ?_, ?_⟩
    · rw [lines, after, before, ← first]
      simp
    · rw [lines, moved, after, found, first]
    · rw [fresh]
      exact listOf_parse_newBlock (indent_blank _) isTag single

end Addition

/-- Adding a tag changes only the docblock above the line, and the docblock is found again. -/
theorem annotation_frame (a : Addition) (issue : Issue) {content : Text}
    (uniform : UniformEndings content) (isTag : IsTag a.tag) (single : ('\n' : CodePoint) ∉ a.value)
    (closed : ∀ block ∈ locateAt? (fileLines content) a.index,
      block.IsStarClosed (fileLines content))
    (success : (a.apply issue content).isSuccess = true) :
    ∃ added, a.Annotated content (a.apply issue content).content added := by
  rw [a.apply_eq uniform.free issue] at success ⊢
  split at success
  · cases success
  · rename_i outside
    split at success
    · cases success
    · rename_i absent
      have inside : a.index < (fileLines content).length := by
        rw [Addition.index]
        omega
      rw [if_neg outside, if_neg absent]
      exact a.exists_annotated uniform isTag single closed inside absent

/-- The result of a function whose docblock closes behind text. -/
theorem annotation_frame_sample :
    ∃ a : Addition, ∃ issue : Issue, ∃ added,
      locateAt? (fileLines "<?php\n/**\n * F */\nfunction f() \x7b\x7d\n") a.index =
        some ⟨"/**\n * F */", 1, 2⟩ ∧
      (a.apply issue "<?php\n/**\n * F */\nfunction f() \x7b\x7d\n").content =
        "<?php\n/**\n * F\n * @return int\n */\nfunction f() \x7b\x7d\n" ∧
      a.Annotated "<?php\n/**\n * F */\nfunction f() \x7b\x7d\n"
        (a.apply issue "<?php\n/**\n * F */\nfunction f() \x7b\x7d\n").content added := by
  refine ⟨⟨4, "return", "int", fun annotations => annotations.hasTag "return", "there", "added"⟩,
    ⟨"a.php", 4, "f has no return type", none, none⟩, ?_⟩
  obtain ⟨added, annotated⟩ := annotation_frame
    ⟨4, "return", "int", fun annotations => annotations.hasTag "return", "there", "added"⟩
    ⟨"a.php", 4, "f has no return type", none, none⟩
    (.inl (by decide +kernel) : UniformEndings "<?php\n/**\n * F */\nfunction f() \x7b\x7d\n")
    ⟨by decide +kernel, by decide +kernel⟩ (by decide +kernel) (by decide +kernel)
    (by decide +kernel)
  exact ⟨added, by decide +kernel, by decide +kernel, annotated⟩

end DocRepair
