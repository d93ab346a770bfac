import DocRepair.Batch.FileReport
import DocRepair.Fixer.Builtin
import DocRepair.Plugin.Assembly
import DocRepair.Proofs.Sequence
import DocRepair.Proofs.Text.Pieces

/-!
A run as a list of steps, and the registry of a run without a configuration.

Such a run asks the fixers that are always there in the order of their registration, and the first
one that claims a diagnostic handles it.
-/

namespace DocRepair

/-- One step of a run: a diagnostic, those that still wait, the content before, and what became of
it. -/
structure Step where
  issue : Issue
  pending : List Issue
  before : Text
  handled : Handled

namespace Step

/-- The content after a step. -/
def after (s : Step) : Text := Batch.next s.before s.handled.result

/-- Whether a step has changed the content. -/
def succeeds (s : Step) : Bool := s.handled.result.isSuccess

theorem after_of_succeeds {s : Step} (succeeds : s.succeeds = true) :
    s.after = s.handled.result.content :=
  if_pos succeeds

theorem after_of_fails {s : Step} (fails : ¬s.succeeds = true) : s.after = s.before :=
  if_neg fails

end Step

/-- The steps in which diagnostics are handled one after the other. -/
def stepsOf (handle : Issue → Text → Handled) : List Issue → Text → List Step
  | [], _ => []
  | issue :: rest, content =>
    ⟨issue, rest, content, handle issue content⟩ ::
      stepsOf handle rest (Batch.next content (handle issue content).result)

/-- What holds at first and is kept by every step holds before each step. -/
theorem stepsOf_invariant {handle : Issue → Text → Handled} (holds : Text → Prop)
    (keeps : ∀ s : Step, s.handled = handle s.issue s.before → holds s.before → holds s.after)
    {issues : List Issue} {content : Text} (start : holds content) {step : Step}
    (member : step ∈ stepsOf handle issues content) :
    holds step.before ∧ step.handled = handle step.issue step.before := by
  induction issues generalizing content with
  | nil => cases member
  | cons issue rest ih =>
    rw [stepsOf] at member
    rcases List.mem_cons.mp member with rfl | later
    · exact ⟨start, rfl⟩
    · exact ih (keeps ⟨issue, rest, content, handle issue content⟩ rfl start) later

namespace Batch

/-- The steps of a run over diagnostics in a given order. -/
def steps (b : Batch) (issues : List Issue) (content : Text) : List Step :=
  stepsOf b.handle issues content

theorem steps_cons (b : Batch) (issue : Issue) (rest : List Issue) (content : Text) :
    b.steps (issue :: rest) content =
      ⟨issue, rest, content, b.handle issue content⟩ ::
        b.steps rest (next content (b.handle issue content).result) :=
  rfl

theorem handleAll_eq_steps (b : Batch) (issues : List Issue) (content : Text) :
    b.handleAll issues content = (b.steps issues content).map (·.handled) := by
  induction issues generalizing content with
  | nil => rfl
  | cons issue rest ih => simp [handleAll, steps_cons, ih]

theorem steps_issues (b : Batch) (issues : List Issue) (content : Text) :
    (b.steps issues content).map (·.issue) = issues := by
  induction issues generalizing content with
  | nil => rfl
  | cons issue rest ih => simp [steps_cons, ih]

def fileSteps (b : Batch) (issues : List Issue) (content : Text) : List Step :=
  b.steps (bottomUp issues) content

theorem fixIssues_eq_steps (b : Batch) (issues : List Issue) (content : Text) :
    b.fixIssues issues content = (b.fileSteps issues content).map (·.handled) :=
  b.handleAll_eq_steps _ content

theorem bottomUp_perm (issues : List Issue) : (bottomUp issues).Perm issues :=
  List.mergeSort_perm issues _

theorem bottomUp_sorted (issues : List Issue) :
    (bottomUp issues).Pairwise fun a b => b.line ≤ a.line :=
  mergeSort_descending (·.line) issues

theorem bottomUp_of_sorted {issues : List Issue}
    (sorted : issues.Pairwise fun a b => b.line ≤ a.line) : bottomUp issues = issues :=
  List.mergeSort_of_pairwise (sorted.imp fun below => by simpa using below)

end Batch

/-! ### The registry of a run without a configuration -/

/-- The fixers that are always there, with the settings they bring along. -/
def Registry.standard (analyze : Analyzer) : Registry :=
  ⟨(Fixer.builtins analyze).mapIdx fun i fixer => ⟨fixer, fixer.priority, true, i⟩⟩

/-- A run without a configuration. -/
def Batch.standard (analyze : Analyzer) : Batch :=
  ⟨.standard analyze, {}, .standard⟩

theorem Fixer.builtins_names_nodup (analyze : Analyzer) :
    ((builtins analyze).map (·.name)).Nodup := by
  simp [builtins, plain]

namespace Plugin

/-- Fixers with new names are registered one after the other. -/
theorem registerAll_append (fixers : List Fixer) (registry : Registry)
    (named : ∀ fixer ∈ fixers, fixer.name ≠ [])
    (distinct : (registry.registrations.map (·.fixer.name) ++ fixers.map (·.name)).Nodup) :
    registerAll {} registry fixers =
      .ok ⟨registry.registrations ++ fixers.mapIdx fun i fixer =>
        ⟨fixer, fixer.priority, true, registry.registrations.length + i⟩⟩ := by
  induction fixers generalizing registry with
  | nil => simp [registerAll]
  | cons fixer rest ih =>
    have proper := named fixer (by simp)
    have fresh : registry.find? fixer.name = none := by
      rw [Registry.find?, List.find?_eq_none]
      intro registration member same
      have known : fixer.name ∈ registry.registrations.map (·.fixer.name) :=
        List.mem_map.mpr ⟨registration, member, by simpa using same⟩
      exact (List.nodup_append.mp distinct).2.2 _ known _ (by simp) rfl
    have registered : registry.register fixer none true =
        .ok (⟨fixer, fixer.priority, true, registry.registrations.length⟩,
          ⟨registry.registrations ++
            [⟨fixer, fixer.priority, true, registry.registrations.length⟩]⟩) := by
      simp [Registry.register, proper, fresh]
    have enabled : Configuration.enables {} fixer.name = true := rfl
    have priority : Configuration.priority? {} fixer.name = none := rfl
    rw [registerAll, enabled, priority, registered]
    show registerAll {} _ rest = _
    rw [ih _ (fun other member => named other (by simp [member])) (by simpa using distinct)]
    simp [List.mapIdx_cons, Nat.add_assoc, Nat.add_comm 1]

/-- Without a configuration the registry is that of the fixers that are always there. -/
theorem assemble_standard (analyze : Analyzer) (catalogue : Catalogue) :
    assemble analyze catalogue {} = .ok (.standard analyze) := by
  have names := Fixer.builtins_names_nodup analyze
  have named : ∀ fixer ∈ Fixer.builtins analyze, fixer.name ≠ [] := by
    simp [Fixer.builtins, Fixer.plain]
  have registered : registerAll {} {} (Fixer.builtins analyze) = .ok (.standard analyze) := by
    rw [registerAll_append (Fixer.builtins analyze) {} named (by simpa using names)]
    simp only [List.nil_append, List.length_nil, Nat.zero_add, Registry.standard]
  have none : loadAll catalogue ({} : Configuration).customFixers = .ok [] := rfl
  rw [assemble, none]
  simp only [List.append_nil]
  rw [registered]
  rfl

end Plugin

/-! ### Who handles a diagnostic -/

namespace Registry

private theorem priorities_descend (analyze : Analyzer) :
    (Fixer.builtins analyze).Pairwise fun a b => b.priority ≤ a.priority := by
  have descend : ((Fixer.builtins analyze).map (·.priority)).Pairwise fun a b => b ≤ a := by
    simp only [Fixer.builtins, Fixer.plain, List.map_cons, List.map_nil]
    decide
  exact List.pairwise_map.mp descend

theorem standard_dispatchOrder (analyze : Analyzer) :
    (standard analyze).dispatchOrder = (standard analyze).registrations := by
  apply List.mergeSort_of_pairwise
  rw [standard, List.mapIdx_eq_zipIdx_map, List.pairwise_map]
  have fixers : (Fixer.builtins analyze).zipIdx.map (·.1) = Fixer.builtins analyze := by simp
  have descend := priorities_descend analyze
  rw [← fixers, List.pairwise_map] at descend
  exact descend.imp fun lower => by simpa using lower

/-- The first standard fixer that claims a diagnostic handles it. -/
theorem standard_claimant? (analyze : Analyzer) (issue : Issue) :
    (standard analyze).claimant? issue =
      (Fixer.builtins analyze).find? fun fixer => fixer.claims issue := by
  rw [claimant?, standard_dispatchOrder, standard, List.mapIdx_eq_zipIdx_map, List.find?_map,
    Option.map_map]
  have fixers : (Fixer.builtins analyze).zipIdx.map (·.1) = Fixer.builtins analyze := by simp
  conv => rhs; rw [← fixers, List.find?_map]
  simp [Function.comp_def]

end Registry

namespace Batch

/-- What a run without a configuration does with a diagnostic. -/
def standardHandle (analyze : Analyzer) (issue : Issue) (content : Text) : Handled :=
  match (Fixer.builtins analyze).find? fun fixer => fixer.claims issue with
  | some fixer => Registry.settle fixer issue content
  | none => ⟨.failure issue content "No strategy could fix this issue", none⟩

theorem standard_handle (analyze : Analyzer) :
    (standard analyze).handle = standardHandle analyze := by
  funext issue content
  have action : (standard analyze).configuration.actionFor (standard analyze).expressions
      issue.message = .fix := rfl
  rw [handle, handle?, action, standardHandle]
  simp only [Registry.dispatch?]
  rw [show (standard analyze).registry = .standard analyze from rfl, Registry.standard_claimant?]
  cases (Fixer.builtins analyze).find? fun fixer => fixer.claims issue <;> rfl

/-- The steps for diagnostics that come from the bottom up already. -/
theorem standard_fileSteps (analyze : Analyzer) {issues : List Issue}
    (sorted : issues.Pairwise fun a b => b.line ≤ a.line) (content : Text) :
    (standard analyze).fileSteps issues content =
      stepsOf (standardHandle analyze) issues content := by
  rw [fileSteps, bottomUp_of_sorted sorted, steps, standard_handle]

end Batch

end DocRepair
