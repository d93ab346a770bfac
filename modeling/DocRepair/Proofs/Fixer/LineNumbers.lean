import DocRepair.Proofs.Docblock.FoundBlock
import DocRepair.Proofs.Fixer.TagEdit

/-!
Two ways to count the lines of a content.

Declarations are numbered by line feeds, while edits cut a content at its own line endings. Where a
content has both kinds of line ends, a bare line feed does not end a line of the edit. The docblock
of a declaration below it then goes too far down, and the last lines are out of reach.
-/

namespace DocRepair

open Docblock Text

/-! ### Counting line feeds -/

theorem length_lines (t : Text) : t.lines.length = t.count ('\n' : CodePoint) + 1 := by
  induction t with
  | nil => rfl
  | cons c rest ih =>
    rw [lines] at ih
    by_cases feed : c = ('\n' : CodePoint)
    · simp [lines, splitAt, feed, ih]
    · obtain ⟨first, others, pieces⟩ :=
        List.exists_cons_of_ne_nil (splitAt_ne_nil ('\n' : CodePoint) rest)
      rw [pieces] at ih
      simpa [lines, splitAt, feed, pieces, consFirst] using ih

namespace LineEnding

def terminate (ending : LineEnding) (lines : List Text) : Text :=
  lines.flatMap (· ++ ending.text)

theorem terminate_append (ending : LineEnding) (lines others : List Text) :
    ending.terminate (lines ++ others) = ending.terminate lines ++ ending.terminate others :=
  List.flatMap_append

theorem join_append (ending : LineEnding) (lines : List Text) {others : List Text}
    (nonempty : others ≠ []) :
    ending.join (lines ++ others) = ending.terminate lines ++ ending.join others :=
  join_append_flatMap ending.text lines nonempty

/-- A line ends in one line feed, whatever comes before it. -/
theorem exists_text (ending : LineEnding) :
    ∃ front, ending.text = front ++ [('\n' : CodePoint)] ∧ ('\n' : CodePoint) ∉ front := by
  cases ending with
  | lf => exact ⟨[], feed_text, by simp⟩
  | crlf => exact ⟨[('\r' : CodePoint)], pair_text, by decide⟩

theorem count_terminate (ending : LineEnding) (lines : List Text) :
    (ending.terminate lines).count ('\n' : CodePoint) =
      lines.length + lines.flatten.count ('\n' : CodePoint) := by
  obtain ⟨front, text, free⟩ := ending.exists_text
  induction lines with
  | nil => rfl
  | cons line rest ih =>
    have here : (line ++ ending.text).count ('\n' : CodePoint) =
        line.count ('\n' : CodePoint) + 1 := by
      simp [text, List.count_eq_zero.mpr free]
    rw [← List.singleton_append, terminate_append, List.count_append, ih]
    simp only [terminate, List.flatMap_singleton, here, List.singleton_append, List.length_cons,
      List.flatten_cons, List.count_append]
    omega

/-- Behind lines with their ends, the lines go on as if nothing came before. -/
theorem lines_terminate_append (ending : LineEnding) (above : List Text) (below : Text) :
    (lines (ending.terminate above ++ below)).drop
      ((ending.terminate above).count ('\n' : CodePoint)) = lines below := by
  obtain ⟨front, text, _⟩ := ending.exists_text
  cases above using List.reverseRecOn with
  | nil => rfl
  | append_singleton above line =>
    have ends : ending.terminate (above ++ [line]) =
        ending.terminate above ++ line ++ front ++ [('\n' : CodePoint)] := by
      simp [terminate, text]
    generalize ending.terminate above ++ line ++ front = start at ends
    have count : (start ++ [('\n' : CodePoint)]).count ('\n' : CodePoint) = start.lines.length := by
      simp [length_lines]
    have cut : lines (start ++ ('\n' : CodePoint) :: below) = start.lines ++ below.lines :=
      splitAt_append_cons _ start below
    rw [ends, count, List.append_assoc, List.singleton_append, cut, List.drop_left]

end LineEnding

/-! ### The two numberings -/

/-- The line feeds inside the lines above an index, which do not count as line ends. -/
def strayFeeds (content : Text) (index : Nat) : Nat :=
  ((fileLines content).take index).flatten.count ('\n' : CodePoint)

section

variable {content : Text}

theorem lines_below {above : List Text} {below : List Text}
    (parts : fileLines content = above ++ below) (more : below ≠ []) :
    lines ((LineEnding.detect content).join below) =
      content.lines.drop (above.length + strayFeeds content above.length) := by
  have whole : content =
      (LineEnding.detect content).terminate above ++ (LineEnding.detect content).join below := by
    rw [← LineEnding.join_append _ above more, ← parts, join_fileLines]
  have later := (LineEnding.detect content).lines_terminate_append above
    ((LineEnding.detect content).join below)
  rw [← whole, LineEnding.count_terminate] at later
  rw [strayFeeds, parts, List.take_left, later]

theorem length_lines_fileLines (content : Text) :
    content.lines.length =
      (fileLines content).length + strayFeeds content (fileLines content).length := by
  obtain ⟨front, last, parts⟩ : ∃ front last, fileLines content = front ++ [last] :=
    ⟨_, _, (List.dropLast_append_getLast (fileLines_ne_nil content)).symm⟩
  have whole := join_fileLines content
  rw [parts, LineEnding.join_append _ front (by simp)] at whole
  have total : content.count ('\n' : CodePoint) =
      front.length + front.flatten.count ('\n' : CodePoint) + last.count ('\n' : CodePoint) := by
    conv_lhs => rw [← whole]
    rw [List.count_append, LineEnding.count_terminate]
    rfl
  rw [length_lines, total, strayFeeds, List.take_length, parts]
  simp only [List.length_append, List.length_singleton, List.flatten_append, List.flatten_singleton,
    List.count_append]
  omega

/-- The two numberings end alike exactly if the line ends are alike. -/
theorem strayFeeds_eq_zero_iff :
    strayFeeds content (fileLines content).length = 0 ↔ UniformEndings content := by
  rw [uniformEndings_iff, strayFeeds, List.take_length, List.count_eq_zero, List.mem_flatten]
  exact ⟨fun none line member feed => none ⟨line, member, feed⟩,
    fun free ⟨line, member, feed⟩ => free line member feed⟩

theorem UniformEndings.strayFeeds_eq_zero (uniform : UniformEndings content) (index : Nat) :
    strayFeeds content index = 0 := by
  rw [strayFeeds, List.count_eq_zero, List.mem_flatten]
  rintro ⟨line, above, feed⟩
  exact uniform.free line (List.mem_of_mem_take above) feed

end

/-! ### Docblocks above a line -/

namespace Addition

/-- The lines that an addition writes, and those in whose place they stand: a new block in no one's
place, or a longer block in place of the old one. -/
inductive Writes (a : Addition) (anchor : Text) : List Text → List Text → Prop where
  | created : Writes a anchor [] (indentedBlock anchor a.tag a.value)
  | extended {old : List Text} (block : BlockSpan old) :
    Writes a anchor old (addTag (unlines old) a.tag a.value).lines

/-- The docblock is written directly above the line with a number, counted by line feeds from zero:
all from that line on follows it, and what stands before it is as it was. -/
def WritesAbove (a : Addition) (content edited : Text) (number : Nat) : Prop :=
  ∃ above old new below, a.Writes (((fileLines content)[a.index]?).getD []) old new ∧
    content = above ++ (LineEnding.detect content).terminate old ++ below ∧
    edited = above ++ (LineEnding.detect content).terminate new ++ below ∧
    below.lines = content.lines.drop number

variable (a : Addition) (issue : Issue) (content : Text)

theorem exists_writes {lines edited : List Text} (inside : a.index < lines.length)
    (done : a.insertAt? lines a.index = some edited) :
    ∃ front old new back, a.Writes ((lines[a.index]?).getD []) old new ∧
      lines = front ++ old ++ back ∧ edited = front ++ new ++ back ∧ back ≠ [] ∧
      a.index = (front ++ old).length := by
  rw [insertAt?] at done
  cases found : locateAt? lines a.index with
  | none =>
    simp only [found] at done
    cases done
    refine ⟨lines.take a.index, [], _, lines.drop a.index, .created, ?_, rfl, ?_, ?_⟩
    · simp
    · simpa using inside
    · simp [Nat.min_eq_left (Nat.le_of_lt inside)]
  | some block =>
    simp only [found] at done
    obtain ⟨front, span, back, rfl, more, place, isBlock, rfl⟩ := exists_blockSpan found
    split at done
    · cases done
    · cases done
      have some : 0 < span.length := by cases isBlock <;> simp
      have reach : a.index - 1 + 1 = (front ++ span).length := by
        rw [List.length_append]
        omega
      refine ⟨front, span, _, back, .extended isBlock, rfl, ?_, more, by simpa using place⟩
      rw [replaceLines, reach, List.drop_left, List.append_assoc front, List.take_left]

/-- Adding a tag to a content, whatever its lines hold. -/
theorem apply_cases :
    ((a.line < 1 ∨ ((fileLines content).length : Int) < a.line) ∧ a.apply issue content =
        .failure issue content ("Line " ++ Text.ofInt a.line ++ " is outside the file")) ∨
      (1 ≤ a.line ∧ a.line ≤ (fileLines content).length) ∧
        (a.apply issue content = .failure issue content a.presentReason ∨
          ∃ edited, a.insertAt? (fileLines content) a.index = some edited ∧
            (a.apply issue content).content = (LineEnding.detect content).join edited ∧
            (a.apply issue content).isSuccess = true) := by
  have own : (LineEnding.detect content).split content = fileLines content := rfl
  have place : (a.line - 1).toNat = a.index := rfl
  simp only [apply, own, place, Bool.or_eq_true, decide_eq_true_eq]
  by_cases outside : a.line < 1 ∨ ((fileLines content).length : Int) < a.line
  · exact .inl ⟨outside, if_pos outside⟩
  · refine .inr ⟨by omega, ?_⟩
    rw [if_neg outside]
    cases a.insertAt? (fileLines content) a.index with
    | none => exact .inl rfl
    | some edited => exact .inr ⟨edited, rfl, rfl, rfl⟩

/-- The docblock goes as many lines further down as line feeds above it have not been counted. -/
theorem writesAbove_of_success (success : (a.apply issue content).isSuccess = true) :
    a.WritesAbove content (a.apply issue content).content
      (a.index + strayFeeds content a.index) := by
  rcases a.apply_cases issue content with ⟨_, failed⟩ | ⟨inside, failed | ⟨edited, done, left, _⟩⟩
  · rw [failed] at success
    cases success
  · rw [failed] at success
    cases success
  · have within : a.index < (fileLines content).length := by
      rw [index]
      omega
    obtain ⟨front, old, new, back, writes, lines, rfl, more, place⟩ := a.exists_writes within done
    have below := lines_below lines more
    have whole := join_fileLines content
    rw [lines, LineEnding.join_append _ _ more, LineEnding.terminate_append] at whole
    rw [LineEnding.join_append _ _ more, LineEnding.terminate_append] at left
    exact ⟨_, old, new, _, writes, whole.symm, left, place ▸ below⟩

theorem heeded_of_inside (low : 1 ≤ a.line) (high : a.line ≤ (fileLines content).length) :
    a.apply issue content = .failure issue content a.presentReason ∨
      (a.apply issue content).isSuccess = true := by
  rcases a.apply_cases issue content with ⟨outside, _⟩ | ⟨_, failed | ⟨_, _, _, success⟩⟩
  · omega
  · exact .inl failed
  · exact .inr success

end Addition

/-- Where the line ends are not alike, the line behind the last one that an edit knows is out of its
reach. -/
theorem exists_beyond {content : Text} (mixed : ¬UniformEndings content) :
    ∃ (a : Addition) (issue : Issue), 1 ≤ a.line ∧
      a.line ≤ content.count ('\n' : CodePoint) + 1 ∧
      a.apply issue content ≠ .failure issue content a.presentReason ∧
      (a.apply issue content).isSuccess = false := by
  have stray := mt strayFeeds_eq_zero_iff.mp mixed
  have total := length_lines_fileLines content
  rw [length_lines] at total
  let a : Addition := ⟨(fileLines content).length + 1, [], [], fun _ => false, "there", []⟩
  let issue : Issue := ⟨[], 0, [], none, none⟩
  have line : a.line = (fileLines content).length + 1 := rfl
  rcases a.apply_cases issue content with ⟨_, failed⟩ | ⟨inside, _⟩
  · refine ⟨a, issue, by omega, by omega, ?_, by rw [failed]; rfl⟩
    rw [failed]
    intro same
    have reasons := congrArg FixResult.description same
    simp [FixResult.failure, ofString, a] at reasons
  · omega

/-- The docblock of every line, numbered by line feeds, is written directly above that line exactly
if the line ends are alike. In general it goes as many lines further down as there are line feeds
above it that do not end a line. -/
theorem line_numbers_agree (content : Text) :
    ((∀ (a : Addition) (issue : Issue), 1 ≤ a.line →
          a.line ≤ content.count ('\n' : CodePoint) + 1 →
        (a.apply issue content = .failure issue content a.presentReason ∨
          (a.apply issue content).isSuccess = true) ∧
        ((a.apply issue content).isSuccess = true →
          a.WritesAbove content (a.apply issue content).content a.index)) ↔
      UniformEndings content) ∧
    ∀ (a : Addition) (issue : Issue), (a.apply issue content).isSuccess = true →
      a.WritesAbove content (a.apply issue content).content
        (a.index + strayFeeds content a.index) := by
  refine ⟨⟨fun agree => ?_, fun uniform a issue low high => ?_⟩,
    fun a issue => a.writesAbove_of_success issue content⟩
  · by_contra mixed
    obtain ⟨a, issue, low, high, unheeded, failed⟩ := exists_beyond mixed
    rcases (agree a issue low high).1 with heeded | success
    · exact unheeded heeded
    · simp [failed] at success
  · have reach : a.line ≤ (fileLines content).length := by
      have total := length_lines_fileLines content
      rw [length_lines, uniform.strayFeeds_eq_zero] at total
      omega
    refine ⟨a.heeded_of_inside issue content low reach, fun success => ?_⟩
    have written := a.writesAbove_of_success issue content success
    rwa [uniform.strayFeeds_eq_zero, Nat.add_zero] at written

/-- A file with both kinds of line ends: two functions on its last two lines. -/
def mixedEnds : Text := "<?php\r\n\nfunction f();\r\nfunction g();"

/-- The docblock for the function on line three goes above the function on line four, and line four
is out of reach. -/
theorem line_numbers_agree_excludes :
    ∃ (a b : Addition) (issue : Issue), a.line = 3 ∧ b.line = 4 ∧
      mixedEnds.lines = ["<?php\r", "", "function f();\r", "function g();"] ∧
      (a.apply issue mixedEnds).content =
        "<?php\r\n\nfunction f();\r\n/**\r\n * @return int\r\n */\r\nfunction g();" ∧
      (b.apply issue mixedEnds).description = some "Line 4 is outside the file" :=
  ⟨⟨3, "return", "int", fun _ => false, "there", "added"⟩,
    ⟨4, "return", "int", fun _ => false, "there", "added"⟩,
    ⟨"a.php", 3, "Function f() has no return type specified.", none, none⟩, by decide +kernel⟩

end DocRepair
