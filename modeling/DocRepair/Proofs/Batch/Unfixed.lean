import DocRepair.Proofs.Batch.FileGroups
import DocRepair.Proofs.Sequence

/-!
Diagnostics that are not fixed.

They leave the content as it is, so whatever is handled after them sees the same content without
them. Leaving diagnostics out does not change the order of the others either. A run without some of
them therefore gives the same results for all the others.
-/

namespace DocRepair

/-- What became of a diagnostic, with its place in the list of all diagnostics. -/
structure Attempt where
  place : Nat
  issue : Issue
  handled : Handled

namespace Attempt

def isFixed (a : Attempt) : Bool := a.handled.result.isSuccess

/-- The attempt at a diagnostic that stands at a place. -/
def ofHandled (placed : Issue × Nat) (handled : Handled) : Attempt :=
  ⟨placed.2, placed.1, handled⟩

end Attempt

namespace Batch

/-- The diagnostics with their places, in the order of handling. -/
def placedBottomUp (issues : List Issue) : List (Issue × Nat) :=
  issues.zipIdx.mergeSort fun a b => b.1.line ≤ a.1.line

/-- Which diagnostic each result of a run belongs to. -/
def attempts (b : Batch) (issues : List Issue) (content : Text) : List Attempt :=
  List.zipWith Attempt.ofHandled (placedBottomUp issues) (b.fixIssues issues content)

theorem placedBottomUp_issues (issues : List Issue) :
    (placedBottomUp issues).map (·.1) = bottomUp issues := by
  unfold placedBottomUp bottomUp
  rw [List.map_mergeSort (s := fun a b : Issue => b.line ≤ a.line) (by simp)]
  simp

theorem placedBottomUp_filter (p : Issue × Nat → Bool) (issues : List Issue) :
    ((placedBottomUp issues).filter p).map (·.1) =
      bottomUp ((issues.zipIdx.filter p).map (·.1)) := by
  unfold placedBottomUp bottomUp
  rw [filter_mergeSort_descending fun placed : Issue × Nat => placed.1.line]
  exact List.map_mergeSort (by simp)

/-- The attempts at diagnostics that are handled one after the other. -/
def attemptAll (b : Batch) (waiting : List (Issue × Nat)) (content : Text) : List Attempt :=
  List.zipWith Attempt.ofHandled waiting (b.handleAll (waiting.map (·.1)) content)

theorem attempts_eq (b : Batch) (issues : List Issue) (content : Text) :
    b.attempts issues content = b.attemptAll (placedBottomUp issues) content := by
  rw [attempts, attemptAll, placedBottomUp_issues, fixIssues]

theorem attemptAll_cons (b : Batch) (first : Issue × Nat) (rest : List (Issue × Nat))
    (content : Text) :
    b.attemptAll (first :: rest) content =
      .ofHandled first (b.handle first.1 content) ::
        b.attemptAll rest (next content (b.handle first.1 content).result) :=
  rfl

theorem attemptAll_handled (b : Batch) (waiting : List (Issue × Nat)) (content : Text) :
    (b.attemptAll waiting content).map (·.handled) = b.handleAll (waiting.map (·.1)) content := by
  induction waiting generalizing content with
  | nil => rfl
  | cons first rest ih =>
    rw [attemptAll_cons, List.map_cons, ih]
    rfl

theorem attemptAll_placed (b : Batch) (waiting : List (Issue × Nat)) (content : Text) :
    (b.attemptAll waiting content).map (fun a => (a.issue, a.place)) = waiting := by
  induction waiting generalizing content with
  | nil => rfl
  | cons first rest ih =>
    rw [attemptAll_cons, List.map_cons, ih]
    rfl

/-- Every result belongs to one place of the list, and every place has one. -/
theorem attempts_placed (b : Batch) (issues : List Issue) (content : Text) :
    ((b.attempts issues content).map fun a => (a.issue, a.place)).Perm issues.zipIdx := by
  rw [attempts_eq, attemptAll_placed]
  exact List.mergeSort_perm _ _

theorem attempts_handled (b : Batch) (issues : List Issue) (content : Text) :
    (b.attempts issues content).map (·.handled) = b.fixIssues issues content := by
  rw [attempts_eq, attemptAll_handled, placedBottomUp_issues, fixIssues]

/-- Without some diagnostics that are not fixed, the others are handled as with them. -/
theorem handleAll_without (b : Batch) (removed : Nat → Bool) (waiting : List (Issue × Nat))
    (content : Text) (unfixed : ∀ a ∈ b.attemptAll waiting content,
      removed a.place = true → a.isFixed = false) :
    b.handleAll ((waiting.filter fun placed => !removed placed.2).map (·.1)) content =
      ((b.attemptAll waiting content).filter fun a => !removed a.place).map (·.handled) := by
  induction waiting generalizing content with
  | nil => rfl
  | cons first rest ih =>
    rw [attemptAll_cons] at unfixed ⊢
    have later := ih _ fun a member => unfixed a (List.mem_cons_of_mem _ member)
    by_cases gone : removed first.2 = true
    · have failed : (b.handle first.1 content).result.isSuccess = false :=
        unfixed _ List.mem_cons_self gone
      rw [List.filter_cons_of_neg (by simp [gone]),
        List.filter_cons_of_neg (by simp [Attempt.ofHandled, gone]), ← later, next, failed]
      rfl
    · rw [List.filter_cons_of_pos (by simp [gone]),
        List.filter_cons_of_pos (by simp [Attempt.ofHandled, gone]), List.map_cons, List.map_cons,
        ← later]
      rfl

/-- Results that are no successes do not change the last content. -/
theorem lastContent_without (removed : Attempt → Bool) (attempts : List Attempt) (content : Text)
    (unfixed : ∀ a ∈ attempts, removed a = true → a.isFixed = false) :
    FileReport.lastContent content
        ((attempts.filter fun a => !removed a).map fun a => a.handled.result) =
      FileReport.lastContent content (attempts.map fun a => a.handled.result) := by
  unfold FileReport.lastContent
  induction attempts generalizing content with
  | nil => rfl
  | cons a rest ih =>
    have later := fun content => ih content fun other member =>
      unfixed other (List.mem_cons_of_mem _ member)
    by_cases gone : removed a = true
    · have failed : a.handled.result.isSuccess = false := unfixed a List.mem_cons_self gone
      rw [List.filter_cons_of_neg (by simp [gone]), later, List.map_cons, List.foldl_cons, failed]
      rfl
    · rw [List.filter_cons_of_pos (by simp [gone]), List.map_cons, List.foldl_cons, later,
        List.map_cons, List.foldl_cons]

end Batch

/-- Leaving out diagnostics that are not fixed changes nothing for the others: they have the same
results in the same order, and the content after all of them is the same. -/
theorem unfixed_irrelevant (b : Batch) (file : Text) (issues : List Issue) (content : Text)
    (removed : Nat → Bool) (unfixed : ∀ a ∈ b.attempts issues content,
      removed a.place = true → a.isFixed = false) :
    (b.attempts issues content).map (·.handled) = b.fixIssues issues content ∧
      ((b.attempts issues content).map fun a => (a.issue, a.place)).Perm issues.zipIdx ∧
      b.fixIssues (keptAt (fun place => !removed place) issues) content =
        ((b.attempts issues content).filter fun a => !removed a.place).map (·.handled) ∧
      (b.fileReport file (keptAt (fun place => !removed place) issues) content).finalContent =
        (b.fileReport file issues content).finalContent := by
  have results : b.fixIssues (keptAt (fun place => !removed place) issues) content =
      ((b.attempts issues content).filter fun a => !removed a.place).map (·.handled) := by
    rw [Batch.attempts_eq] at unfixed ⊢
    rw [← b.handleAll_without removed _ content unfixed, Batch.placedBottomUp_filter]
    rfl
  refine ⟨b.attempts_handled issues content, b.attempts_placed issues content, results, ?_⟩
  simp only [Batch.fileReport, FileReport.ofResults]
  rw [results, ← b.attempts_handled issues content, List.map_map, List.map_map]
  exact Batch.lastContent_without (fun a => removed a.place) _ content unfixed

def Fixer.named (name : Text) (fix : Issue → Text → Except Thrown FixResult) : Fixer :=
  ⟨name, name, [], 0, fun issue => issue.message == name, fix⟩

/-- A fixer that adds a line, and one that throws. -/
def addingAndThrowing : Batch :=
  ⟨⟨[⟨.named "adds" fun issue content => .ok (.success issue (content ++ "\n") none []), 0, true,
      0⟩,
    ⟨.named "throws" fun _ _ => .error ⟨"RuntimeError", "broke"⟩, 0, true, 1⟩]⟩, {}, .standard⟩

/-- Between two lines that are added a fixer throws. -/
theorem unfixed_irrelevant_sample :
    let issues : List Issue := [⟨"a.php", 1, "adds", none, none⟩,
      ⟨"a.php", 2, "throws", none, none⟩, ⟨"a.php", 3, "adds", none, none⟩]
    (addingAndThrowing.attempts issues "").map (fun a => (a.place, a.isFixed)) =
        [(2, true), (1, false), (0, true)] ∧
      addingAndThrowing.fixIssues [issues[0], issues[2]] "" =
        ((addingAndThrowing.attempts issues "").filter fun a => a.place != 1).map (·.handled) := by
  intro issues
  have outcomes : (addingAndThrowing.attempts issues "").map (fun a => (a.place, a.isFixed)) =
      [(2, true), (1, false), (0, true)] := by
    cbv
  refine ⟨outcomes, (unfixed_irrelevant addingAndThrowing "a.php" issues "" (· == 1) ?_).2.2.1⟩
  intro a member second
  have listed := List.mem_map_of_mem (f := fun a : Attempt => (a.place, a.isFixed)) member
  rw [outcomes] at listed
  simpa [show a.place = 1 by simpa using second] using listed

end DocRepair
