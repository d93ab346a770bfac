import DocRepair.Proofs.Fixer.Growth

/-!
The same report applied once more.

Line numbers of the report stand for other lines in the fixed file. The second run does nothing
exactly if every diagnostic is settled at its old line number in the new file, and it changes the
file otherwise.
-/

namespace DocRepair

open Docblock Text

/-- Whether there is something to do for a plan: its line is in the file, and what it adds is not
there yet. A bare type can always be completed. -/
def Plan.applies (lines : List Text) : Plan → Bool
  | .tag a =>
    1 ≤ a.line && a.line ≤ lines.length && !a.isPresentAt lines a.index
  | .complete _ _ _ _ _ => true
  | .inline line variableName =>
    1 ≤ line && line ≤ lines.length && !isDeclaredAbove variableName lines (line - 1).toNat

theorem Addition.insertAt?_isNone (a : Addition) (lines : List Text) (index : Nat) :
    (a.insertAt? lines index).isNone = a.isPresentAt lines index := by
  rw [insertAt?, isPresentAt]
  cases locateAt? lines index with
  | none => rfl
  | some block =>
    simp only
    split
    · rename_i present
      rw [present]
      rfl
    · rename_i absent
      rw [Bool.not_eq_true] at absent
      rw [absent]
      rfl

/-- A plan succeeds exactly if there is something to do. -/
theorem Plan.isSuccess_carryOut (issue : Issue) (content : Text) (p : Plan) :
    (p.carryOut issue content).isSuccess = p.applies (fileLines content) := by
  have outside : ∀ line : Int,
      (line < 1 || ((fileLines content).length : Int) < line) =
        !(1 ≤ line && line ≤ ((fileLines content).length : Int)) := by
    intro line
    rw [Bool.eq_iff_iff]
    simp only [Bool.or_eq_true, decide_eq_true_eq, Bool.not_eq_true', Bool.and_eq_false_iff,
      decide_eq_false_iff_not]
    omega
  cases p with
  | tag a =>
    have own : (LineEnding.detect content).split content = fileLines content := rfl
    have place : (a.line - 1).toNat = a.index := rfl
    simp only [carryOut, Addition.apply, own, place, outside, applies,
      ← a.insertAt?_isNone (fileLines content) a.index]
    cases (decide (1 ≤ a.line) && decide (a.line ≤ ((fileLines content).length : Int))) with
    | false => rfl
    | true => cases a.insertAt? (fileLines content) a.index <;> rfl
  | complete line tagName variableName block stop => rfl
  | inline line variableName =>
    simp only [carryOut, outside, applies]
    cases (decide (1 ≤ line) && decide (line ≤ ((fileLines content).length : Int))) with
    | false => rfl
    | true =>
      cases isDeclaredAbove variableName (fileLines content) (line - 1).toNat <;> rfl

/-- A diagnostic is settled in a content if no fixer has anything to do about it. -/
def Settled (analyze : Analyzer) (issue : Issue) (content : Text) : Prop :=
  ∀ p, Fixer.plan analyze issue content = .ok p → p.applies (fileLines content) = false

theorem Batch.standardHandle_fails_iff (analyze : Analyzer) (issue : Issue) (content : Text) :
    (standardHandle analyze issue content).result.isSuccess = false ↔
      Settled analyze issue content := by
  rw [standardHandle_eq_settle, Settled]
  cases Fixer.plan analyze issue content with
  | error reason => simp [Plan.settle, FixResult.failure, FixResult.isSuccess]
  | ok p => simp [Plan.settle, Plan.isSuccess_carryOut]

/-- A success adds code points that can be seen. -/
theorem Batch.standardHandle_grows {analyze : Analyzer} {issue : Issue} {content : Text}
    (success : (standardHandle analyze issue content).result.isSuccess = true) :
    visible content < visible (standardHandle analyze issue content).result.content := by
  obtain ⟨p, _, placed, result⟩ := exists_plan_of_success success
  rw [result] at success ⊢
  exact p.carryOut_grows placed success

/-! ### Runs -/

namespace Batch

/-- The content after all diagnostics of a file have been handled. -/
def finalContent (b : Batch) (issues : List Issue) (content : Text) : Text :=
  FileReport.lastContent content ((b.fixIssues issues content).map (·.result))

/-- The content after diagnostics have been handled in a given order. -/
def lastAfter (b : Batch) (issues : List Issue) (content : Text) : Text :=
  FileReport.lastContent content ((b.handleAll issues content).map (·.result))

theorem lastAfter_cons (b : Batch) (issue : Issue) (rest : List Issue) (content : Text) :
    b.lastAfter (issue :: rest) content =
      b.lastAfter rest (next content (b.handle issue content).result) :=
  rfl

/-- Until the first success every diagnostic meets the same content. -/
theorem handleAll_fails_iff (b : Batch) (issues : List Issue) (content : Text) :
    (∀ handled ∈ b.handleAll issues content, handled.result.isSuccess = false) ↔
      ∀ issue ∈ issues, (b.handle issue content).result.isSuccess = false := by
  induction issues generalizing content with
  | nil => simp [handleAll]
  | cons issue rest ih =>
    rw [handleAll, List.forall_mem_cons, List.forall_mem_cons]
    refine and_congr_right fun fails => ?_
    rw [next, if_neg (by simp [fails]), ih]

private theorem lastAfter_standard (analyze : Analyzer) (issues : List Issue) (content : Text) :
    visible content ≤ visible ((standard analyze).lastAfter issues content) ∧
      ((standard analyze).lastAfter issues content = content ↔
        ∀ handled ∈ (standard analyze).handleAll issues content,
          handled.result.isSuccess = false) := by
  induction issues generalizing content with
  | nil => simp [lastAfter, handleAll, FileReport.lastContent]
  | cons issue rest ih =>
    rw [lastAfter_cons, handleAll, List.forall_mem_cons, standard_handle]
    by_cases success : (standardHandle analyze issue content).result.isSuccess = true
    · have grows := standardHandle_grows success
      obtain ⟨later, _⟩ := ih (standardHandle analyze issue content).result.content
      rw [next, if_pos success]
      refine ⟨by omega, fun same => ?_, fun fails => absurd success (by simp [fails.1])⟩
      rw [same] at later
      omega
    · obtain ⟨later, unchanged⟩ := ih content
      rw [next, if_neg success]
      exact ⟨later, unchanged.trans (by simp [success])⟩

end Batch

/-- The same report applied to the file that a run has fixed: nothing is fixed again exactly if
every diagnostic is settled there at its old line, and exactly then the file stays as it is. -/
theorem repeated_run (analyze : Analyzer) (issues : List Issue) (content : Text) :
    ((∀ handled ∈ (Batch.standard analyze).fixIssues issues
          ((Batch.standard analyze).finalContent issues content),
        handled.result.isSuccess = false) ↔
      ∀ issue ∈ issues,
        Settled analyze issue ((Batch.standard analyze).finalContent issues content)) ∧
    ((Batch.standard analyze).finalContent issues
          ((Batch.standard analyze).finalContent issues content) =
        (Batch.standard analyze).finalContent issues content ↔
      ∀ issue ∈ issues,
        Settled analyze issue ((Batch.standard analyze).finalContent issues content)) := by
  generalize (Batch.standard analyze).finalContent issues content = fixed
  have fails : (∀ handled ∈ (Batch.standard analyze).fixIssues issues fixed,
      handled.result.isSuccess = false) ↔ ∀ issue ∈ issues, Settled analyze issue fixed := by
    rw [Batch.fixIssues, Batch.handleAll_fails_iff, Batch.standard_handle]
    simp only [(Batch.bottomUp_perm issues).mem_iff, Batch.standardHandle_fails_iff]
  exact ⟨fails, (Batch.lastAfter_standard analyze _ fixed).2.trans fails⟩

end DocRepair
