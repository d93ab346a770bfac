import DocRepair.Php.Source
import DocRepair.Proofs.Batch.Accounting
import DocRepair.Proofs.Fixer.Growth

/-!
When a file counts as changed.

Whatever the settings of the fixers that are always there, an attempt that does not succeed hands
the content back as it was given, and one that succeeds adds something that can be seen. So a file
with a success never ends with the content that it began with.
-/

namespace DocRepair

open Text

/-- A registry of fixers that are always there, with any settings. -/
def Registry.IsBuiltin (analyze : Analyzer) (r : Registry) : Prop :=
  ∀ registration ∈ r.registrations, registration.fixer ∈ Fixer.builtins analyze

namespace Plugin

theorem registerAll_fixers {configuration : Configuration} {fixers : List Fixer}
    {registry extended : Registry}
    (registered : registerAll configuration registry fixers = .ok extended) :
    extended.registrations.map (·.fixer) = registry.registrations.map (·.fixer) ++ fixers := by
  induction fixers generalizing registry with
  | nil =>
    cases registered
    simp
  | cons fixer rest ih =>
    simp only [registerAll, Registry.register] at registered
    split at registered
    · cases registered
    · split at registered
      · cases registered
      · have later := ih registered
        rw [later]
        simp

/-- Without fixers of its own a configuration only has settings for those that are always there. -/
theorem assemble_isBuiltin {analyze : Analyzer} {catalogue : Catalogue} {settings : Configuration}
    {registry : Registry} (own : settings.customFixers = [])
    (assembled : assemble analyze catalogue settings = .ok registry) :
    registry.IsBuiltin analyze := by
  have none : loadAll catalogue settings.customFixers = .ok [] := by rw [own]; rfl
  rw [assemble, none] at assembled
  simp only [List.append_nil] at assembled
  cases registered : registerAll settings {} (Fixer.builtins analyze) with
  | error e =>
    rw [registered] at assembled
    cases assembled
  | ok extended =>
    rw [registered] at assembled
    cases assembled
    intro registration member
    have fixers := registerAll_fixers registered
    rw [List.map_nil, List.nil_append] at fixers
    rw [← fixers]
    exact List.mem_map_of_mem member

end Plugin

/-! ### One attempt -/

/-- What can become of a diagnostic: it stays unfixed in the content it met, or a plan is carried
out. -/
theorem Batch.handle_cases {b : Batch} {analyze : Analyzer}
    (builtin : b.registry.IsBuiltin analyze) (issue : Issue) (content : Text) :
    ((b.handle issue content).result.isSuccess = false ∧
        (b.handle issue content).result.content = content) ∨
      ∃ planner ∈ Fixer.plans analyze, ∃ p, planner issue content = .ok p ∧
        (b.handle issue content).result = p.carryOut issue content := by
  rw [handle, handle?]
  cases b.configuration.actionFor b.expressions issue.message with
  | ignore => exact .inl ⟨rfl, rfl⟩
  | report => exact .inl ⟨rfl, rfl⟩
  | fix =>
    rw [Registry.dispatch?]
    cases found : b.registry.claimant? issue with
    | none => exact .inl ⟨rfl, rfl⟩
    | some fixer =>
      obtain ⟨registration, member, rfl⟩ := Registry.exists_claimant found
      obtain ⟨planner, known, follows⟩ := Fixer.exists_planner (builtin registration member)
      simp only [Option.map_some, Option.getD_some, Registry.settle, follows issue content]
      cases planned : planner issue content with
      | error obstacle => cases obstacle <;> exact .inl ⟨rfl, rfl⟩
      | ok p => exact .inr ⟨planner, known, p, planned, rfl⟩

theorem Plan.content_carryOut {issue : Issue} {content : Text} {p : Plan}
    (fails : (p.carryOut issue content).isSuccess = false) :
    (p.carryOut issue content).content = content := by
  cases p with
  | tag a =>
    simp only [carryOut, Addition.apply] at fails ⊢
    split at fails
    · rename_i outside
      rw [if_pos outside]
      rfl
    · rename_i inside
      rw [if_neg inside]
      split at fails
      · rfl
      · cases fails
  | complete => cases fails
  | inline line variableName =>
    simp only [carryOut] at fails ⊢
    split at fails
    · rename_i outside
      rw [if_pos outside]
      rfl
    · rename_i inside
      rw [if_neg inside]
      split at fails
      · rename_i declared
        rw [if_pos declared]
        rfl
      · cases fails

namespace Batch

variable {b : Batch} {analyze : Analyzer} (builtin : b.registry.IsBuiltin analyze)

include builtin

/-- An attempt that does not succeed hands the content back. -/
theorem content_handle {issue : Issue} {content : Text}
    (fails : (b.handle issue content).result.isSuccess = false) :
    (b.handle issue content).result.content = content := by
  rcases handle_cases builtin issue content with ⟨_, same⟩ | ⟨_, _, p, _, carried⟩
  · exact same
  · rw [carried] at fails ⊢
    exact p.content_carryOut fails

/-- An attempt that succeeds adds code points that can be seen. -/
theorem handle_grows {issue : Issue} {content : Text}
    (success : (b.handle issue content).result.isSuccess = true) :
    visible content < visible (b.handle issue content).result.content := by
  rcases handle_cases builtin issue content with ⟨fails, _⟩ | ⟨_, known, p, planned, carried⟩
  · rw [fails] at success
    cases success
  · rw [carried] at success ⊢
    exact p.carryOut_grows (Fixer.planner_placed known planned) success

theorem next_handle (issue : Issue) (content : Text) :
    next content (b.handle issue content).result = (b.handle issue content).result.content := by
  rw [next]
  split
  · rfl
  · rename_i fails
    exact (content_handle builtin (by simpa using fails)).symm

/-! ### Whole files -/

/-- The content after the last success is that of the last result. -/
theorem lastContent_handleAll (issues : List Issue) (content : Text) :
    FileReport.lastContent content ((b.handleAll issues content).map (·.result)) =
      ((b.handleAll issues content).getLast?.map (·.result.content)).getD content := by
  induction issues generalizing content with
  | nil => rfl
  | cons issue rest ih =>
    have step : FileReport.lastContent content
        ((b.handleAll (issue :: rest) content).map (·.result)) =
        FileReport.lastContent (b.handle issue content).result.content
          ((b.handleAll rest (b.handle issue content).result.content).map (·.result)) := by
      rw [← next_handle builtin issue content]
      rfl
    rw [step, ih, handleAll]
    simp only [next_handle builtin]
    cases later : b.handleAll rest (b.handle issue content).result.content with
    | nil => rfl
    | cons first others => simp [List.getLast?_cons]

/-- Along a run the content only grows, and it stays the same only if nothing succeeds. -/
theorem lastContent_grows (issues : List Issue) (content : Text) :
    visible content ≤ visible
        (FileReport.lastContent content ((b.handleAll issues content).map (·.result))) ∧
      (FileReport.lastContent content ((b.handleAll issues content).map (·.result)) = content ↔
        ((b.handleAll issues content).map (·.result)).countP (·.isSuccess) = 0) := by
  induction issues generalizing content with
  | nil => simp [handleAll, FileReport.lastContent]
  | cons issue rest ih =>
    have step : FileReport.lastContent content
        ((b.handleAll (issue :: rest) content).map (·.result)) =
        FileReport.lastContent (next content (b.handle issue content).result)
          ((b.handleAll rest (next content (b.handle issue content).result)).map (·.result)) := rfl
    obtain ⟨later, unchanged⟩ := ih (next content (b.handle issue content).result)
    rw [step, handleAll, List.map_cons, List.countP_cons]
    by_cases success : (b.handle issue content).result.isSuccess = true
    · have grows := handle_grows builtin success
      rw [← next_handle builtin] at grows
      refine ⟨by omega, fun same => ?_, fun none => by simp [success] at none⟩
      rw [same] at later
      omega
    · have same : next content (b.handle issue content).result = content := if_neg success
      rw [same] at later unchanged ⊢
      rw [if_neg success, Nat.add_zero]
      exact ⟨later, unchanged⟩

end Batch

/-- With the fixers that are always there, however they are set, and any policy: what does not
succeed keeps the content it met, so the content of the last result is the final one, and a file is
reported as changed exactly if its content has changed. -/
theorem changes_reported {b : Batch} {analyze : Analyzer} {catalogue : Plugin.Catalogue}
    {settings : Configuration} (own : settings.customFixers = [])
    (assembled : Plugin.assemble analyze catalogue settings = .ok b.registry)
    (file : Text) (issues : List Issue) (content : Text) :
    b.fixIssues issues content = (b.fileSteps issues content).map (·.handled) ∧
      (∀ step ∈ b.fileSteps issues content, step.succeeds = false →
        step.handled.result.content = step.before) ∧
      (b.fileReport file issues content).finalContent =
        ((b.fileReport file issues content).results.getLast?.map (·.content)).getD
          (b.fileReport file issues content).initialContent ∧
      ((b.fileReport file issues content).hasChanges = true ↔
        (b.fileReport file issues content).finalContent ≠
          (b.fileReport file issues content).initialContent) := by
  have builtin := Plugin.assemble_isBuiltin own assembled
  refine ⟨Batch.fixIssues_eq_steps b issues content, fun step member fails => ?_, ?_, ?_⟩
  · have handled := (stepsOf_invariant (fun _ => True) (fun _ _ _ => trivial) trivial member).2
    rw [Step.succeeds, handled] at fails
    rw [handled]
    exact Batch.content_handle builtin fails
  · have last := Batch.lastContent_handleAll builtin (Batch.bottomUp issues) content
    rw [Batch.fileReport, FileReport.ofResults, List.getLast?_map, Option.map_map]
    exact last
  · have unchanged := (Batch.lastContent_grows builtin (Batch.bottomUp issues) content).2
    rw [FileReport.hasChanges, decide_eq_true_iff, Nat.pos_iff_ne_zero]
    exact (not_congr unchanged).symm

def undefinedUse : Issue := ⟨"a.php", 2, "Undefined variable: $x", none, none⟩

/-- A complaint about a variable without its name. -/
def namelessUse : Issue := ⟨"a.php", 1, "Undefined variable", none, none⟩

/-- The variable with a name is declared, the other one cannot be: the last result has kept the
content that the first one left. -/
theorem changes_reported_sample :
    ∃ report, report =
        (Batch.standard Php.declarations?).fileReport "a.php" [undefinedUse, namelessUse]
          "<?php\necho $x;\n" ∧
      report.results.map (·.outcome) = [.success, .failure] ∧
      report.finalContent = (report.results.getLast?.map (·.content)).getD report.initialContent ∧
      (report.hasChanges = true ↔ report.finalContent ≠ report.initialContent) := by
  refine ⟨_, rfl, ?_,
    (changes_reported rfl (Plugin.assemble_standard Php.declarations? []) _ _ _).2.2⟩
  rw [Batch.fileReport, FileReport.ofResults, Batch.fixIssues_eq_steps,
    Batch.standard_fileSteps _ (by decide)]
  decide +kernel

end DocRepair
