import DocRepair.Proofs.Fixer.LineNumbers
import DocRepair.Proofs.Fixer.PlannedEdit
import DocRepair.Proofs.Fixer.Recognition

/-!
The inline docblock of a variable that is not defined.

It goes above the line of the diagnostic, in the place of a blank line if there is one, and every
other line stays. That holds of contents with mixed line ends too, because neither the indentation
of a line nor the docblock brings a new line end. The docblock declares the variable by the very
expression that looks for declarations, so that nothing is added when the diagnostic comes again on
the line that has moved.
-/

namespace DocRepair

open Docblock Text

/-! ### Lines that are not cut -/

namespace LineEnding

variable {s t : Text}

/-- A text is one line exactly if it holds no line end. -/
theorem split_eq_singleton_iff (ending : LineEnding) :
    ending.split t = [t] ↔ ¬ending.text <:+: t := by
  constructor
  · intro whole held
    cases ending with
    | lf =>
      have member : t ∈ splitAt '\n' t := by
        rw [← lines, show t.lines = [t] from whole]
        exact List.mem_singleton_self t
      have free : ('\n' : CodePoint) ∉ t := not_mem_of_mem_splitAt member
      rw [text, feed_text] at held
      exact free (held.subset (by simp))
    | crlf =>
      have several := (holds_pair_iff t).mp ((holds_iff_isInfix _ _).mpr held)
      rw [show splitAtPair '\r' '\n' t = [t] from whole] at several
      simp at several
  · intro absent
    cases ending with
    | lf =>
      refine split_of_not_mem .lf fun member => absent ?_
      obtain ⟨front, back, rfl⟩ := List.append_of_mem member
      exact ⟨front, back, by simp [text, feed_text]⟩
    | crlf =>
      have few := mt (holds_pair_iff t).mpr fun held => absent ((holds_iff_isInfix _ _).mp held)
      obtain ⟨line, others, pieces⟩ :=
        List.exists_cons_of_ne_nil (splitAtPair_ne_nil ('\r' : CodePoint) '\n' t)
      obtain rfl : others = [] := by
        rw [pieces] at few
        exact List.length_eq_zero_iff.mp (by simp only [List.length_cons] at few; omega)
      have joined := join_split .crlf t
      rw [show split .crlf t = [line] from pieces] at joined ⊢
      rw [show line = t from joined]

/-- The beginning of a line is one line, and text without line feeds behind it brings no line end. -/
theorem split_indented (ending : LineEnding) {line margin : Text}
    (whole : ending.split line = [line]) (beginning : margin <+: line)
    (free : ('\n' : CodePoint) ∉ t) : ending.split (margin ++ t) = [margin ++ t] := by
  rw [split_eq_singleton_iff] at whole ⊢
  rintro ⟨before, after, parts⟩
  obtain ⟨front, ends, -⟩ := ending.exists_text
  rw [ends, ← List.append_assoc] at parts
  -- The line feed of a line end would stand in the margin.
  rcases List.append_eq_append_iff.mp parts with ⟨more, inside, -⟩ | ⟨more, inside, behind⟩
  · refine whole (List.IsInfix.trans ⟨before, more, ?_⟩ beginning.isInfix)
    rw [inside, ends, List.append_assoc before, List.append_assoc before, List.append_assoc before]
  · cases more using List.reverseRecOn with
    | nil =>
      refine whole (List.IsInfix.trans ⟨before, [], ?_⟩ beginning.isInfix)
      rw [List.append_nil] at inside
      rw [← inside, ends, List.append_nil, List.append_assoc before]
    | append_singleton more c =>
      rw [← List.append_assoc] at inside
      obtain ⟨rfl⟩ : ('\n' : CodePoint) = c := by simpa using (List.append_inj' inside rfl).2
      exact free (by simp [behind])

/-- Lines that are not cut any further are read back in the style in which they were put together,
if that style is found again. -/
theorem fileLines_join_of_whole {ending : LineEnding} {lines : List Text} (nonempty : lines ≠ [])
    (whole : ∀ line ∈ lines, ending.split line = [line])
    (same : detect (ending.join lines) = ending) : fileLines (ending.join lines) = lines := by
  rw [fileLines, same, split_join_flatMap ending nonempty, List.flatMap_congr whole,
    List.flatMap_singleton']

end LineEnding

/-! ### The declaration is found -/

namespace Pattern

open Cursor

variable {front rest : Text} {groups : List (Nat × Capture)}

theorem leads_wordEdge {x y : CodePoint} (word : x.isWord = true) (other : y.isWord = false) :
    (Pattern.anchor .wordEdge).run.Leads (between (front ++ [x]) (y :: rest) groups)
      (between (front ++ [x]) (y :: rest) groups) := by
  have edge : (between (front ++ [x]) (y :: rest) groups).isAt .wordEdge = true := by
    have sides : (between (front ++ [x]) (y :: rest) groups).isAt .wordEdge =
        (x.isWord != y.isWord) := by
      rw [between, List.reverse_append]
      rfl
    rw [sides, word, other]
    rfl
  intro k r ends
  simp only [run, if_pos edge, ends]

end Pattern

namespace Fixer

open Pattern Cursor

/-- The code points of a type in a declaration. -/
private def shownSet : CharSet := ⟨[.named .blank true], false, false⟩

/-- An inline docblock declares its variable, wherever it stands in a line. -/
theorem occursIn_inlineBlock {name : Text} (isName : IsName name) (margin : Text) :
    (inlineDeclaration ("$" ++ name)).occursIn (margin ++ inlineBlock ("$" ++ name)) = true := by
  have parts : margin ++ inlineBlock ("$" ++ name) =
      (margin ++ "/** ") ++ ("@var" ++ (" " ++ ("mixed" ++ (" " ++ (("$" ++ name) ++ " */"))))) := by
    simp [inlineBlock, ofString]
  obtain ⟨front, last, named⟩ : ∃ front last, name = front ++ [last] :=
    ⟨_, _, (List.dropLast_append_getLast isName.nonempty).symm⟩
  have word : last.isWord = true := isName.inside last (by simp [named])
  have edge : (Pattern.anchor .wordEdge).run.Leads
      (between (margin ++ "/** " ++ "@var" ++ " " ++ "mixed" ++ " " ++ ("$" ++ name)) " */" [])
      (between (margin ++ "/** " ++ "@var" ++ " " ++ "mixed" ++ " " ++ ("$" ++ name)) " */" []) := by
    have close : Text.ofString " */" = (' ' : CodePoint) :: Text.ofString "*/" := by simp [ofString]
    rw [named, close, ← List.append_assoc, ← List.append_assoc]
    exact leads_wordEdge word (by decide)
  have path : (inlineDeclaration ("$" ++ name)).run.Leads
      (between (margin ++ "/** ")
        ("@var" ++ (" " ++ ("mixed" ++ (" " ++ (("$" ++ name) ++ " */"))))) [])
      (between (margin ++ "/** " ++ "@var" ++ " " ++ "mixed" ++ " " ++ ("$" ++ name)) " */" []) := by
    have type : (many1 (.set shownSet)).run.Leads
        (between (margin ++ "/** " ++ "@var" ++ " ")
          ("mixed" ++ (" " ++ (("$" ++ name) ++ " */"))) [])
        (between (margin ++ "/** " ++ "@var" ++ " " ++ "mixed")
          (" " ++ (("$" ++ name) ++ " */")) []) :=
      leads_many1 (by decide) (by decide) (stops_before (by decide) _)
    refine leads_all_cons (leads_exactly "@var") <|
      leads_all_cons (leads_space (stops_before (by decide) _)) <| leads_all_cons type <|
      leads_all_cons (leads_space ?_) <| leads_all_cons (leads_exactly _) <|
      leads_all_cons edge (leads_all_nil _)
    rw [List.append_assoc]
    exact stops_before (by decide) _
  rw [parts]
  exact occursIn_of_reaches path.reaches

/-! ### The lines -/

/-- Lines with a docblock above the line of a number, which is counted from one. A blank line there
gives way to it. -/
inductive DeclaredAbove (block : Text) : List Text → Int → List Text → Prop
  | inserted {above below : List Text} {target : Text}
    (shown : ∀ line ∈ above.getLast?, line.strip ≠ []) :
    DeclaredAbove block (above ++ target :: below) (above.length + 1)
      (above ++ (target.indent ++ block) :: target :: below)
  | replaced {above below : List Text} {blank target : Text} (nothing : blank.strip = []) :
    DeclaredAbove block (above ++ blank :: target :: below) (above.length + 2)
      (above ++ (target.indent ++ block) :: target :: below)

theorem declaredAbove_insertInline (block : Text) (above : List Text) (target : Text)
    (below : List Text) :
    DeclaredAbove block (above ++ target :: below) (above.length + 1)
      (insertInline (above ++ target :: below) above.length block) := by
  cases above using List.reverseRecOn with
  | nil => exact @DeclaredAbove.inserted block [] below target (by simp)
  | append_singleton above previous =>
    have index : (above ++ [previous]).length = above.length + 1 := by simp
    by_cases nothing : previous.strip = []
    · have replaced := @DeclaredAbove.replaced block above below previous target nothing
      simpa [index, insertInline, nothing, replaceLines, Int.add_assoc] using replaced
    · have inserted := @DeclaredAbove.inserted block (above ++ [previous]) below target
        (by simpa using nothing)
      have front : (above ++ previous :: target :: below).take (above.length + 1) =
          above ++ [previous] := by
        rw [List.append_cons, ← index, List.take_left]
      simpa [index, insertInline, nothing, front] using inserted

variable {block : Text} {old new : List Text} {line : Int}

/-- The docblock stands directly above the line at the number to which it has moved; but for that
and a blank line the lines are the old ones. -/
theorem DeclaredAbove.exists_parts (declared : DeclaredAbove block old line new) :
    ∃ above gone target below, old = above ++ gone ++ target :: below ∧
      new = above ++ (target.indent ++ block) :: target :: below ∧ gone.length ≤ 1 ∧
      line + (new.length - old.length) = above.length + 2 := by
  cases declared with
  | @inserted above below target _ =>
    refine ⟨above, [], target, below, by simp, rfl, by simp, ?_⟩
    simp only [List.length_append, List.length_cons]
    omega
  | @replaced above below blank target _ =>
    refine ⟨above, [blank], target, below, by simp, rfl, by simp, ?_⟩
    simp only [List.length_append, List.length_cons]
    omega

variable {content : Text}

theorem free_inlineBlock {name : Text} (isName : IsName name) :
    ('\n' : CodePoint) ∉ inlineBlock ("$" ++ name) := by
  have inside : ('\n' : CodePoint) ∉ name := isName.isClassName.contentLine.free
  simp [inlineBlock, inside, ofString]

theorem DeclaredAbove.whole {name : Text} {edited : List Text} (isName : IsName name)
    (declared : DeclaredAbove (inlineBlock ("$" ++ name)) (fileLines content) line edited) :
    ∀ line ∈ edited, (LineEnding.detect content).split line = [line] := by
  obtain ⟨above, gone, target, below, old, rfl, -, -⟩ := declared.exists_parts
  have uncut : ∀ line ∈ fileLines content, (LineEnding.detect content).split line = [line] :=
    fun line member => LineEnding.split_of_mem_split _ member
  have fresh := LineEnding.split_indented _ (uncut target (by simp [old]))
    (List.takeWhile_prefix CodePoint.isBlank) (free_inlineBlock isName)
  rw [old] at uncut
  intro line member
  rcases List.mem_append.mp member with early | late
  · exact uncut line (by simp [early])
  · rcases List.mem_cons.mp late with rfl | later
    · exact fresh
    · exact uncut line (List.mem_append_right _ later)

/-- The last line apart, no new line ends in a carriage return if no old one does. -/
theorem DeclaredAbove.plain {name : Text} {edited : List Text}
    (declared : DeclaredAbove (inlineBlock ("$" ++ name)) (fileLines content) line edited)
    (style : LineEnding.detect content = .lf) :
    ∀ line ∈ edited.dropLast, endsInReturn line = false := by
  obtain ⟨above, gone, target, below, old, rfl, -, -⟩ := declared.exists_parts
  have plain := fileLines_plain style
  rw [old, List.dropLast_append_of_ne_nil (by simp)] at plain
  rw [List.dropLast_append_of_ne_nil (by simp)]
  intro line member
  rcases List.mem_append.mp member with early | late
  · exact plain line (by simp [early])
  · rcases List.mem_cons.mp late with rfl | later
    · -- Only the docblock is new, and it ends in a slash.
      have slash : inlineBlock ("$" ++ name) = ("/** @var mixed $" ++ name ++ " *") ++ "/" := by
        simp [inlineBlock, ofString]
      rw [slash, ← List.append_assoc]
      exact endsInReturn_append_of_not_mem _ (by simp [ofString]) (by simp [ofString])
    · exact plain line (List.mem_append_right _ later)

theorem DeclaredAbove.detect_join {name : Text} {edited : List Text} (isName : IsName name)
    (declared : DeclaredAbove (inlineBlock ("$" ++ name)) (fileLines content) line edited) :
    LineEnding.detect ((LineEnding.detect content).join edited) = LineEnding.detect content := by
  obtain ⟨above, gone, target, below, old, new, atMost, -⟩ := declared.exists_parts
  have nonempty : edited ≠ [] := by simp [new]
  have whole := declared.whole isName
  have plain := declared.plain
  cases style : LineEnding.detect content with
  | crlf =>
    have several := two_le_length_fileLines style
    refine LineEnding.detect_join_crlf ?_
    rw [old] at several
    rw [new]
    simp only [List.length_append, List.length_cons] at several ⊢
    omega
  | lf =>
    have bare : ∀ line ∈ edited, ('\n' : CodePoint) ∉ line := by
      intro line member
      have alone := (LineEnding.split_eq_singleton_iff _).mp (whole line member)
      rw [style, LineEnding.text, feed_text] at alone
      intro feed
      obtain ⟨front, back, rfl⟩ := List.append_of_mem feed
      exact alone ⟨front, back, by simp⟩
    rw [LineEnding.detect_join_lf nonempty bare, List.countP_eq_zero]
    intro line member
    rw [plain style line member]
    exact Bool.false_ne_true

/-- Put together in the style of their content, the lines are read back. -/
theorem DeclaredAbove.fileLines_join {name : Text} {edited : List Text} (isName : IsName name)
    (declared : DeclaredAbove (inlineBlock ("$" ++ name)) (fileLines content) line edited) :
    fileLines ((LineEnding.detect content).join edited) = edited := by
  obtain ⟨above, gone, target, below, -, new, -, -⟩ := declared.exists_parts
  have nonempty : edited ≠ [] := by simp [new]
  exact LineEnding.fileLines_join_of_whole nonempty (declared.whole isName)
    (declared.detect_join isName)

/-! ### The fixer -/

theorem isName_undefinedVariableName? {message name : Text}
    (found : undefinedVariableName? message = some name) : IsName name :=
  Message.isName_of_firstName? (by decide +kernel) found

variable {issue : Issue} {name : Text}

theorem fixUndefinedVariable_eq (named : undefinedVariableName? issue.message = some name)
    (content : Text) : fixUndefinedVariable issue content =
      (Plan.inline issue.line ("$" ++ name)).carryOut issue content := by
  have answered := answer_inlinePlan issue content
  rw [inlinePlan, named] at answered
  exact (Except.ok.inj answered).symm

/-- A line of a file by its number, which is counted from one. -/
theorem exists_target {lines : List Text} {number : Int} (first : 1 ≤ number)
    (last : number ≤ lines.length) : ∃ above target below,
      lines = above ++ target :: below ∧ (above.length : Int) + 1 = number := by
  have inside : (number - 1).toNat < lines.length := by omega
  refine ⟨lines.take (number - 1).toNat, lines[(number - 1).toNat],
    lines.drop ((number - 1).toNat + 1), ?_, ?_⟩
  · rw [← List.drop_eq_getElem_cons inside, List.take_append_drop]
  · rw [List.length_take]
    omega

theorem declaredAbove_of_success
    (success : (fixUndefinedVariable issue content).isSuccess = true) :
    ∃ name edited, undefinedVariableName? issue.message = some name ∧
      DeclaredAbove (inlineBlock ("$" ++ name)) (fileLines content) issue.line edited ∧
      fixUndefinedVariable issue content =
        .success issue ((LineEnding.detect content).join edited)
          (some ("Added inline @var annotation for " ++ ("$" ++ name)))
          ["Added " ++ inlineBlock ("$" ++ name) ++ " at line " ++ Text.ofInt issue.line] := by
  have failed : ∀ reason, (FixResult.failure issue content reason).isSuccess = false :=
    fun reason => rfl
  cases named : undefinedVariableName? issue.message with
  | none =>
    rw [fixUndefinedVariable, named] at success
    simp [failed] at success
  | some name =>
    rw [fixUndefinedVariable_eq named, Plan.carryOut] at success ⊢
    split at success
    · simp [failed] at success
    · rename_i outside
      rw [if_neg outside]
      split at success
      · simp [failed] at success
      · rename_i absent
        rw [if_neg absent]
        simp only [Bool.or_eq_true, decide_eq_true_eq, not_or, Int.not_lt] at outside
        obtain ⟨above, target, below, lines, place⟩ := exists_target outside.1 outside.2
        have index : (issue.line - 1).toNat = above.length := by omega
        refine ⟨name, _, rfl, ?_, rfl⟩
        rw [lines, index, ← place]
        exact declaredAbove_insertInline _ above target below

/-- Below the docblock of a variable nothing is added for the same variable. -/
theorem fails_of_declaredAbove (named : undefinedVariableName? issue.message = some name)
    {above below : List Text} {margin target : Text}
    (lines : fileLines content =
      above ++ (margin ++ inlineBlock ("$" ++ name)) :: target :: below)
    (place : issue.line = above.length + 2) :
    fixUndefinedVariable issue content = .failure issue content
      ("Inline @var annotation already exists for " ++ ("$" ++ name)) := by
  have inside : (issue.line < 1 || ((fileLines content).length : Int) < issue.line) = false := by
    rw [lines, Bool.or_eq_false_iff]
    simp only [decide_eq_false_iff_not, List.length_append, List.length_cons]
    omega
  have index : (issue.line - 1).toNat = above.length + 1 := by omega
  have declared : Plan.isDeclaredAbove ("$" ++ name) (fileLines content)
      (issue.line - 1).toNat = true := by
    simp only [Plan.isDeclaredAbove, lines, index]
    simpa using occursIn_inlineBlock (isName_undefinedVariableName? named) margin
  rw [fixUndefinedVariable_eq named, Plan.carryOut, inside, declared]
  rfl

end Fixer

open Fixer

/-- The inline docblock of a variable is put above the line of its diagnostic and every other line
stays, in any line endings; the same diagnostic on the line that has moved along changes nothing. -/
theorem declared_once {issue : Issue} {content : Text}
    (success : (fixUndefinedVariable issue content).isSuccess = true) :
    ∃ name, undefinedVariableName? issue.message = some name ∧
      LineEnding.detect (fixUndefinedVariable issue content).content = LineEnding.detect content ∧
      DeclaredAbove ("/** @var mixed $" ++ name ++ " */") (fileLines content) issue.line
        (fileLines (fixUndefinedVariable issue content).content) ∧
      ∀ again : Issue, again.message = issue.message →
        again.line = issue.line + ((fileLines (fixUndefinedVariable issue content).content).length -
          (fileLines content).length) →
        fixUndefinedVariable again (fixUndefinedVariable issue content).content =
          .failure again (fixUndefinedVariable issue content).content
            ("Inline @var annotation already exists for $" ++ name) := by
  obtain ⟨name, edited, named, declared, result⟩ := declaredAbove_of_success success
  have same := declared.detect_join (isName_undefinedVariableName? named)
  have lines := declared.fileLines_join (isName_undefinedVariableName? named)
  have block : inlineBlock ("$" ++ name) = "/** @var mixed $" ++ name ++ " */" := by
    simp [inlineBlock, ofString]
  have reason : ("Inline @var annotation already exists for " : Text) ++ ("$" ++ name) =
      "Inline @var annotation already exists for $" ++ name := by
    simp [ofString]
  rw [result]
  refine ⟨name, named, same, ?_, fun again message line => ?_⟩
  · rw [← block, FixResult.success, lines]
    exact declared
  · obtain ⟨above, gone, target, below, -, new, -, place⟩ := declared.exists_parts
    rw [FixResult.success] at line ⊢
    rw [lines, place] at line
    rw [← reason]
    exact fails_of_declaredAbove (message ▸ named) (lines.trans new) line

/-- A line that begins with a line feed of its own, in a file with pairs of line ends, below a blank
line. -/
theorem declared_once_sample :
    let content : Text := "<?php\r\n \r\n\n\techo $x;"
    let fixed : Text := "<?php\r\n\n\t/** @var mixed $x */\r\n\n\techo $x;"
    let issue : Issue := ⟨"a.php", 3, "Undefined variable: $x", none, none⟩
    (fixUndefinedVariable issue content).isSuccess = true ∧
      (fixUndefinedVariable issue content).content = fixed ∧
      fixUndefinedVariable issue fixed =
        .failure issue fixed "Inline @var annotation already exists for $x" := by
  intro content fixed issue
  have success : (fixUndefinedVariable issue content).isSuccess = true := by decide +kernel
  have result : (fixUndefinedVariable issue content).content = fixed := by decide +kernel
  have variableName : undefinedVariableName? issue.message = some ("x" : Text) := by decide +kernel
  have lengths : (fileLines fixed).length = 3 ∧ (fileLines content).length = 3 := by decide +kernel
  obtain ⟨name, named, -, -, again⟩ := declared_once success
  obtain rfl := Option.some.inj (named.symm.trans variableName)
  rw [result] at again
  exact ⟨success, result, again issue rfl (by rw [lengths.1, lengths.2]; rfl)⟩

end DocRepair
