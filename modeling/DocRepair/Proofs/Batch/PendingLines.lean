import DocRepair.Php.Source
import DocRepair.Proofs.Fixer.PlannedEdit

/-!
What a step does to the lines on which other diagnostics wait.

A fixer may put its tag above a declaration that begins well before the line of its diagnostic. The
lines that wait between them move, the closing line of a docblock above the declaration is replaced,
and all other lines stay.
-/

namespace DocRepair

open Docblock Text

/-- A line gives way to another one, or moves down together with all lines below it. -/
def Displaced (before after : List Text) (i : Nat) : Prop :=
  after[i]? ≠ before[i]? ∨ ∃ n, 0 < n ∧ ∀ j, i ≤ j → after[j + n]? = before[j]?

/-- Whether a plan reaches the line at an index: for a tag, the lines from the declaration on and
the closing line of a block above it; for a type, the line in which it ends; for an inline
docblock, a blank line in its place, or the lines from there on. -/
def Plan.reaches (lines : List Text) (i : Nat) : Plan → Bool
  | .tag a => a.index ≤ i || (i + 1 == a.index && (locateAt? lines a.index).isSome)
  | .complete _ _ _ block stop =>
    i + 1 == block.firstLine + (Text.lines (block.text.take stop)).length
  | .inline line _ =>
    if 0 < (line - 1).toNat ∧ ((lines[(line - 1).toNat - 1]?).getD []).strip = [] then
      i + 1 == (line - 1).toNat
    else (line - 1).toNat ≤ i

/-- The index of the first line that a plan can touch: the opening line of the docblock to which it
adds, or the place of a new one. -/
def Plan.start (lines : List Text) : Plan → Nat
  | .tag a => ((locateAt? lines a.index).map (·.firstLine)).getD a.index
  | .complete _ _ _ block _ => block.firstLine
  | .inline line variableName =>
    (inlineEdit lines (line - 1).toNat (Fixer.inlineBlock variableName)).cut

namespace LineEdit

theorem target_ne_self_iff (e : LineEdit) (i : Nat) :
    e.target i ≠ some i ↔ e.cut ≤ i ∧ (i < e.resume ∨ 0 < e.added) := by
  rw [target]
  split
  · simp only [ne_eq, not_true_eq_false, false_iff]
    omega
  · split
    · simp only [ne_eq, reduceCtorEq, not_false_eq_true, true_iff]
      omega
    · simp only [ne_eq, Option.some.injEq]
      omega

theorem Fits.displaced {e : LineEdit} {lines : List Text} (fits : e.Fits lines) {i : Nat}
    (leaves : e.target i ≠ some i) : Displaced lines (e.apply lines) i := by
  obtain ⟨below, reached⟩ := (e.target_ne_self_iff i).mp leaves
  by_cases gone : i < e.resume
  · exact .inl (fits.apply_of_replaced (by rw [target, if_neg (by omega), if_pos gone]))
  · refine .inr ⟨e.added, reached.resolve_left gone, fun j later => fits.apply_of_target ?_⟩
    have ordered := fits.ordered
    rw [target, if_neg (by omega), if_neg (by omega)]

end LineEdit

namespace Plan

theorem reaches_iff {lines : List Text} {p : Plan} (fits : (p.edit lines).Fits lines)
    (free : ∀ line ∈ lines, ('\n' : CodePoint) ∉ line) (i : Nat) :
    p.reaches lines i = true ↔ (p.edit lines).target i ≠ some i := by
  rw [LineEdit.target_ne_self_iff]
  cases p with
  | tag a =>
    have cut := a.editAt_cut a.index free
    have resume := a.editAt_resume a.index free
    have longer := a.editAt_longer a.index free
    have ordered := fits.ordered
    simp only [reaches, edit, LineEdit.added, Bool.or_eq_true, decide_eq_true_eq,
      Bool.and_eq_true, beq_iff_eq] at ordered ⊢
    split at cut
    · rename_i found
      simp only [found, and_true]
      omega
    · rename_i missing
      rw [Bool.not_eq_true] at missing
      simp only [missing, Bool.false_eq_true, and_false, or_false]
      omega
  | complete line tagName variableName block stop =>
    have some := List.length_pos_iff.mpr (splitAt_ne_nil ('\n' : CodePoint) (block.text.take stop))
    simp only [reaches, edit, completingEdit, LineEdit.added, beq_iff_eq, List.length_singleton,
      Text.lines]
    omega
  | inline line variableName =>
    simp only [reaches, edit, inlineEdit, LineEdit.added, List.length_singleton]
    split
    · simp only [beq_iff_eq]
      omega
    · simp only [decide_eq_true_eq]
      omega

theorem Leaves.exists_append {lines edited : List Text} {p : Plan}
    (leaves : p.Leaves lines edited) : ∃ back, edited = lines.take (p.start lines) ++ back := by
  cases leaves with
  | @tag a _ _ done =>
    rw [Addition.insertAt?] at done
    rw [start]
    split at done
    · rename_i block found
      split at done
      · cases done
      · cases done
        simp only [found, Option.map_some, Option.getD_some, replaceLines, List.append_assoc]
        exact ⟨_, rfl⟩
    · rename_i missing
      cases done
      simp only [missing, Option.map_none, Option.getD_none, List.append_assoc]
      exact ⟨_, rfl⟩
  | complete =>
    rw [start, replaceLines, List.append_assoc]
    exact ⟨_, rfl⟩
  | inline =>
    rw [insertInline_eq, start, LineEdit.apply, List.append_assoc]
    exact ⟨_, rfl⟩

end Plan

namespace Step

theorem carriedOut {analyze : Analyzer} {s : Step}
    (handled : s.handled = Batch.standardHandle analyze s.issue s.before)
    (succeeds : s.succeeds = true) :
    ∃ p, Fixer.plan analyze s.issue s.before = .ok p ∧ p.Placed analyze s.issue s.before ∧
      (p.carryOut s.issue s.before).isSuccess = true ∧
      s.after = (p.carryOut s.issue s.before).content := by
  have next := after_of_succeeds succeeds
  rw [Step.succeeds, handled] at succeeds
  obtain ⟨p, planned, placed, result⟩ := Batch.exists_plan_of_success succeeds
  rw [result] at succeeds
  rw [handled, result] at next
  exact ⟨p, planned, placed, succeeds, next⟩

/-- A file with pairs of a carriage return and a line feed keeps them, and gets no others. -/
theorem paired_after {analyze : Analyzer} {s : Step}
    (handled : s.handled = Batch.standardHandle analyze s.issue s.before)
    (paired : LineEnding.detect s.before = .crlf)
    (free : ∀ line ∈ fileLines s.before, ('\n' : CodePoint) ∉ line) :
    LineEnding.detect s.after = .crlf ∧ ∀ line ∈ fileLines s.after, ('\n' : CodePoint) ∉ line := by
  by_cases succeeds : s.succeeds = true
  · obtain ⟨p, _, placed, success, after⟩ := carriedOut handled succeeds
    obtain ⟨fits, content⟩ := p.carryOut_edit placed free success
    have several := two_le_length_fileLines paired
    have longer := fits.length_le_apply
    rw [after, content, paired]
    have kept := LineEnding.detect_join_crlf (several.trans longer)
    refine ⟨kept, ?_⟩
    rw [fileLines_join (fits.apply_ne_nil (fileLines_ne_nil _)) (fits.apply_free free) kept]
    exact fits.apply_free free
  · rw [after_of_fails succeeds]
    exact ⟨paired, free⟩

end Step

/-- Before every step the lines have no line feeds inside, if the file still has its first line
endings. -/
theorem free_before {analyze : Analyzer} {content : Text} (uniform : UniformEndings content)
    {issues : List Issue} {step : Step}
    (member : step ∈ stepsOf (Batch.standardHandle analyze) issues content)
    (kept : LineEnding.detect step.before = LineEnding.detect content) :
    ∀ line ∈ fileLines step.before, ('\n' : CodePoint) ∉ line := by
  cases ending : LineEnding.detect step.before with
  | lf =>
    rw [fileLines, ending]
    exact fun line inside => not_mem_of_mem_splitAt inside
  | crlf =>
    have paired : LineEnding.detect content = .crlf := kept.symm.trans ending
    exact (stepsOf_invariant
      (fun current => LineEnding.detect current = .crlf ∧
        ∀ line ∈ fileLines current, ('\n' : CodePoint) ∉ line)
      (fun s handled before => s.paired_after handled before.1 before.2)
      ⟨paired, uniform.free⟩ member).1.2

/-- A step that succeeds leaves the lines above its docblock where they are. As long as the file has
its first line endings, every other line that waits above the diagnostic stays or is displaced,
depending on whether the plan of the fixer reaches it. Lines are read in the line endings from
before the step. -/
theorem pending_lines {analyze : Analyzer} {content : Text} (uniform : UniformEndings content)
    {issues : List Issue} {step : Step}
    (member : step ∈ (Batch.standard analyze).fileSteps issues content)
    (succeeds : step.succeeds = true) :
    ∃ p, Fixer.plan analyze step.issue step.before = .ok p ∧
      p.Placed analyze step.issue step.before ∧
      ∀ issue ∈ step.pending, 1 ≤ issue.line → issue.line ≤ (fileLines step.before).length →
        issue.line < step.issue.line →
          ((issue.line - 1).toNat < p.start (fileLines step.before) →
            ((LineEnding.detect step.before).split step.after)[(issue.line - 1).toNat]? =
              (fileLines step.before)[(issue.line - 1).toNat]?) ∧
          (LineEnding.detect step.before = LineEnding.detect content →
            if p.reaches (fileLines step.before) (issue.line - 1).toNat then
              Displaced (fileLines step.before)
                ((LineEnding.detect step.before).split step.after) (issue.line - 1).toNat
            else
              ((LineEnding.detect step.before).split step.after)[(issue.line - 1).toNat]? =
                (fileLines step.before)[(issue.line - 1).toNat]?) := by
  rw [Batch.fileSteps, Batch.steps, Batch.standard_handle] at member
  have handled := (stepsOf_invariant (fun _ => True) (fun _ _ _ => trivial) trivial member).2
  obtain ⟨p, planned, placed, success, after⟩ := Step.carriedOut handled succeeds
  refine ⟨p, planned, placed, fun issue _ first last _ => ⟨fun above => ?_, fun kept => ?_⟩⟩
  · obtain ⟨edited, leaves, joined⟩ := Plan.carryOut_leaves success
    obtain ⟨back, rfl⟩ := leaves.exists_append
    have inside : (issue.line - 1).toNat < (fileLines step.before).length := by omega
    rw [after, joined]
    exact LineEnding.getElem?_split_join _ above inside back
  · have free := free_before uniform member kept
    obtain ⟨fits, content⟩ := p.carryOut_edit placed free success
    rw [after, content, LineEnding.split_join _ (fits.apply_ne_nil (fileLines_ne_nil _))
      (fits.apply_free free)]
    split
    · rename_i reached
      exact fits.displaced ((p.reaches_iff fits free _).mp reached)
    · rename_i missed
      refine fits.apply_of_target ?_
      by_contra leaves
      exact missed ((p.reaches_iff fits free _).mpr leaves)

/-- A class with a method that lacks a result type above a call of a method that is not there. -/
def callingClass : Text :=
  "<?php\nclass A \x7b\nfunction f() \x7b\x7d\nfunction g() \x7b $this->h(); \x7d\n\x7d\n"

def undefinedCall : Issue := ⟨"a.php", 4, "Call to undefined method A::h()", none, none⟩

/-- The first method. -/
def untypedMethod : Issue := ⟨"a.php", 3, "Method A::f() has no return type", none, none⟩

/-- The tag for the class goes above the method on whose line another diagnostic waits. -/
theorem pending_lines_sample :
    ∃ step ∈ (Batch.standard Php.declarations?).fileSteps [undefinedCall, untypedMethod]
        callingClass, step.issue = undefinedCall ∧ step.pending = [untypedMethod] ∧
      Displaced (fileLines step.before) ((LineEnding.detect step.before).split step.after) 2 := by
  have member : (⟨undefinedCall, [untypedMethod], callingClass,
      Batch.standardHandle Php.declarations? undefinedCall callingClass⟩ : Step) ∈
        (Batch.standard Php.declarations?).fileSteps [undefinedCall, untypedMethod]
          callingClass := by
    rw [Batch.standard_fileSteps _ (by decide)]
    exact List.mem_cons_self
  have reached : (Fixer.plan Php.declarations? undefinedCall callingClass).toOption.map
      (·.reaches (fileLines callingClass) 2) = some true := by decide +kernel
  obtain ⟨p, planned, _, lines⟩ :=
    pending_lines (.inl (by decide +kernel)) member (by decide +kernel)
  rw [planned] at reached
  refine ⟨_, member, rfl, rfl, ?_⟩
  have there :=
    (lines untypedMethod (by simp) (by decide) (by decide +kernel) (by decide)).2 rfl
  have place : (untypedMethod.line - 1).toNat = 2 := by decide
  rw [place, if_pos (Option.some.inj reached)] at there
  exact there

end DocRepair
