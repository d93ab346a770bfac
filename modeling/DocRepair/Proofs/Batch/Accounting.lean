import DocRepair.Files.FileTree
import DocRepair.Php.Source
import DocRepair.Proofs.Batch.FileGroups
import DocRepair.Proofs.Fixer.Plan

/-!
What becomes of the diagnostics of a run.

Every diagnostic of a file that is allowed and can be read has exactly one result, whatever the
fixers and the policy do with it. A file that is missing or cannot be read is passed over. Where the
system does not even tell whether a file is there, the run stops instead, and the diagnostics of all
other files are lost with it.
-/

namespace DocRepair

/-! ### One result for each diagnostic -/

/-- Every fixer answers for the diagnostic that it was given, if it answers at all. -/
def Registry.IsFaithful (r : Registry) : Prop :=
  ∀ registration ∈ r.registrations, ∀ issue content result,
    registration.fixer.fix issue content = .ok result → result.issue = issue

theorem Registry.exists_claimant {r : Registry} {issue : Issue} {fixer : Fixer}
    (found : r.claimant? issue = some fixer) :
    ∃ registration ∈ r.registrations, registration.fixer = fixer := by
  obtain ⟨registration, first, same⟩ := Option.map_eq_some_iff.mp found
  have member := List.mem_of_find?_eq_some first
  exact ⟨registration, (List.mergeSort_perm _ _).mem_iff.mp member, same⟩

section

variable {b : Batch} (faithful : b.registry.IsFaithful)

include faithful

theorem Batch.handle_issue (issue : Issue) (content : Text) :
    (b.handle issue content).result.issue = issue := by
  rw [handle, handle?]
  cases b.configuration.actionFor b.expressions issue.message with
  | ignore => rfl
  | report => rfl
  | fix =>
    rw [Registry.dispatch?]
    cases found : b.registry.claimant? issue with
    | none => rfl
    | some fixer =>
      obtain ⟨registration, member, rfl⟩ := Registry.exists_claimant found
      simp only [Option.map_some, Option.getD_some, Registry.settle]
      cases answer : registration.fixer.fix issue content with
      | ok result => exact faithful registration member issue content result answer
      | error thrown => rfl

/-- Results come one by one, for the diagnostics in the order of handling. -/
theorem Batch.handleAll_issues (issues : List Issue) (content : Text) :
    (b.handleAll issues content).map (·.result.issue) = issues := by
  induction issues generalizing content with
  | nil => rfl
  | cons issue rest ih =>
    rw [handleAll, List.map_cons, handle_issue faithful, ih]

end

theorem Plan.carryOut_issue (issue : Issue) (content : Text) (plan : Plan) :
    (plan.carryOut issue content).issue = issue := by
  cases plan with
  | tag a =>
    simp only [carryOut, Addition.apply]
    split
    · rfl
    · split <;> rfl
  | complete => rfl
  | inline =>
    simp only [carryOut]
    split
    · rfl
    · split <;> rfl

theorem Plan.answer_issue {issue : Issue} {content : Text}
    {planned : Except Fixer.Obstacle Plan} {result : FixResult}
    (answered : answer issue content planned = .ok result) : result.issue = issue := by
  cases planned with
  | error obstacle =>
    cases obstacle <;> cases answered
    rfl
  | ok plan =>
    cases answered
    exact carryOut_issue issue content plan

/-- The fixers that are always there answer for what they were given. -/
theorem Registry.standard_isFaithful (analyze : Analyzer) : (standard analyze).IsFaithful := by
  intro registration member issue content result answer
  obtain ⟨i, inside, rfl⟩ := List.mem_mapIdx.mp member
  obtain ⟨planner, _, follows⟩ := Fixer.exists_planner (List.getElem_mem inside)
  exact Plan.answer_issue ((follows issue content).symm.trans answer)

/-! ### Reports -/

def FileReport.fixed (r : FileReport) : List Issue := (r.results.filter (·.isSuccess)).map (·.issue)

theorem outcomes_perm (results : List FixResult) :
    (results.filter (·.isSuccess) ++ results.filter (·.isFailure) ++
      results.filter (·.isIgnored) ++ results.filter (·.isReported)).Perm results := by
  induction results with
  | nil => rfl
  | cons r rest ih =>
    have one : ∀ front back : List FixResult, (front ++ back).Perm rest →
        (front ++ r :: back).Perm (r :: rest) :=
      fun front back same => List.perm_middle.trans (same.cons r)
    simp only [FixResult.isSuccess, FixResult.isFailure, FixResult.isIgnored,
      FixResult.isReported] at ih ⊢
    cases ends : r.outcome with
    | success => simpa [ends] using ih
    | failure =>
      simp only [List.append_assoc] at ih
      simpa [ends] using one _ _ ih
    | ignored =>
      rw [List.append_assoc] at ih
      simpa [ends] using one _ _ ih
    | reported => simpa [ends] using one _ _ ih

/-- A report accounts for the diagnostics of its file in a run. -/
structure FileReport.AccountsFor (r : FileReport) (issues : List Issue) : Prop where
  /-- The diagnostics of the file, in the order of the run. -/
  own : r.issues = issues.filter fun issue => issue.file = r.file
  /-- They are handled by descending line, those of one line in their order. -/
  handled : SortedBottomUp r.issues (r.results.map (·.issue))
  /-- Each of them is in one list, once. -/
  once : (r.fixed ++ r.unfixed ++ r.ignored ++ r.reported).Perm r.issues

section

variable {b : Batch} (faithful : b.registry.IsFaithful) (file : Text) (issues : List Issue)
  (initial : Text)

include faithful

theorem Batch.fileReport_handled :
    SortedBottomUp issues ((b.fileReport file issues initial).results.map (·.issue)) := by
  have results : (b.fileReport file issues initial).results.map (·.issue) = bottomUp issues := by
    simp only [fileReport, FileReport.ofResults, List.map_map]
    exact handleAll_issues faithful (bottomUp issues) initial
  rw [results]
  exact bottomUp_sortedBottomUp issues

theorem Batch.fileReport_once :
    ((b.fileReport file issues initial).fixed ++ (b.fileReport file issues initial).unfixed ++
      (b.fileReport file issues initial).ignored ++
      (b.fileReport file issues initial).reported).Perm issues := by
  have once := (outcomes_perm (b.fileReport file issues initial).results).map (·.issue)
  simp only [List.map_append] at once
  exact once.trans (fileReport_handled faithful file issues initial).perm

theorem Batch.fileReport_accounts :
    (b.fileReport file (issues.filter fun issue => issue.file = file) initial).AccountsFor issues :=
  ⟨rfl, fileReport_handled faithful file _ initial, fileReport_once faithful file _ initial⟩

end

/-! ### Counts -/

theorem length_flatMap_eq_total {α β : Type} (list : α → List β) (xs : List α) :
    (xs.flatMap list).length = total (fun x => (list x).length) xs := by
  induction xs with
  | nil => rfl
  | cons x rest ih => rw [List.flatMap_cons, List.length_append, ih, total]

/-- The counts of a run are those of the lists in its reports. -/
structure Statistics.Agrees (s : Statistics) (reports : List FileReport) : Prop where
  files : s.totalFiles = reports.length
  issues : s.totalIssues = (reports.flatMap (·.issues)).length
  fixed : s.issuesFixed = (reports.flatMap (·.fixed)).length
  failed : s.issuesFailed = (reports.flatMap (·.unfixed)).length
  ignored : s.issuesIgnored = (reports.flatMap (·.ignored)).length
  reported : s.issuesReported = (reports.flatMap (·.reported)).length
  balanced : (s.totalIssues : Int) =
    s.issuesFixed + s.issuesFailed + s.issuesIgnored + s.issuesReported

/-- The count of failures, which is found by subtraction, is that of the list of failures. -/
theorem Statistics.ofReports_agrees {reports : List FileReport}
    (once : ∀ r ∈ reports, (r.fixed ++ r.unfixed ++ r.ignored ++ r.reported).Perm r.issues) :
    (ofReports reports).Agrees reports := by
  have fixed : total (·.fixedCount) reports = (reports.flatMap (·.fixed)).length := by
    rw [length_flatMap_eq_total]
    simp only [FileReport.fixedCount, FileReport.fixed, List.length_map,
      List.countP_eq_length_filter]
  have sum : total (·.issues.length) reports = total (·.fixedCount) reports +
      (reports.flatMap (·.unfixed)).length + total (·.ignored.length) reports +
      total (·.reported.length) reports := by
    rw [fixed, ← length_flatMap_eq_total, ← length_flatMap_eq_total, ← length_flatMap_eq_total]
    clear fixed
    induction reports with
    | nil => rfl
    | cons r rest ih =>
      have here := (once r (by simp)).length_eq
      have later := ih fun other member => once other (by simp [member])
      simp only [List.flatMap_cons, List.length_append] at here later ⊢
      omega
  have failed : (ofReports reports).issuesFailed = (reports.flatMap (·.unfixed)).length := by
    simp only [ofReports]
    omega
  refine ⟨rfl, (length_flatMap_eq_total ..).symm, fixed, failed,
    (length_flatMap_eq_total ..).symm, (length_flatMap_eq_total ..).symm, ?_⟩
  rw [failed]
  simp only [ofReports]
  omega

theorem Batch.progress_counts (reports : List FileReport) :
    (progress reports).map (fun step => (step.done, step.total)) =
      (List.range' 1 reports.length).map fun i => (i, reports.length) := by
  apply List.ext_getElem (by simp [progress])
  intro i _ _
  simp [progress, Nat.add_comm]

theorem Batch.progress_files (reports : List FileReport) :
    (progress reports).map (·.file) = reports.map (·.file) := by
  apply List.ext_getElem (by simp [progress])
  intro i _ _
  simp [progress]

/-! ### Whole runs -/

/-- The groups of distinct files hold what belongs to one of the files. -/
theorem flatMap_groups_perm {files : List Text} (distinct : files.Nodup) (issues : List Issue) :
    (files.flatMap fun file => issues.filter fun issue => issue.file = file).Perm
      (issues.filter fun issue => issue.file ∈ files) := by
  induction files with
  | nil => simp
  | cons first rest ih =>
    obtain ⟨absent, others⟩ := List.nodup_cons.mp distinct
    have cut := List.filter_append_perm (fun issue : Issue => decide (issue.file = first))
      (issues.filter fun issue => issue.file ∈ first :: rest)
    rw [List.filter_filter, List.filter_filter] at cut
    have here : (issues.filter fun issue => decide (issue.file = first) &&
        decide (issue.file ∈ first :: rest)) = issues.filter fun issue => issue.file = first := by
      apply List.filter_congr
      intro issue _
      by_cases same : issue.file = first <;> simp [same]
    have there : (issues.filter fun issue => !decide (issue.file = first) &&
        decide (issue.file ∈ first :: rest)) = issues.filter fun issue => issue.file ∈ rest := by
      apply List.filter_congr
      intro issue _
      by_cases same : issue.file = first
      · simp [same, absent]
      · simp [same]
    rw [here, there] at cut
    rw [List.flatMap_cons]
    exact ((ih others).append_left _).trans cut

namespace Batch

variable (b : Batch) (disk : Disk) (base : Option Text) (issues : List Issue)

/-- Whether the file of a diagnostic is allowed and can be read. -/
def isProcessed (issue : Issue) : Bool :=
  b.admits disk base issue.file && (disk.contentAt? issue.file).isSome

/-- Reports that account for a run. -/
structure AccountsFor (reports : List FileReport) : Prop where
  /-- No diagnostic is lost, and none comes twice. -/
  complete : (reports.flatMap (·.issues)).Perm (issues.filter (b.isProcessed disk base))
  each : ∀ r ∈ reports, r.AccountsFor issues
  statistics : (Statistics.ofReports reports).Agrees reports
  counts : (progress reports).map (fun step => (step.done, step.total)) =
    (List.range' 1 (Statistics.ofReports reports).totalFiles).map
      fun i => (i, (Statistics.ofReports reports).totalFiles)
  files : (progress reports).map (·.file) = reports.map (·.file)

/-- The diagnostics of the files that are reported on, file by file. -/
theorem flatMap_reports {source? : Text → Option Text} (files : List Text) :
    (files.filterMap (b.reportOf? source? issues)).flatMap (·.issues) =
      (files.filter fun file => (source? file).isSome).flatMap
        fun file => issues.filter fun issue => issue.file = file := by
  induction files with
  | nil => rfl
  | cons file rest ih =>
    cases read : source? file with
    | none => simpa [reportOf?, read] using ih
    | some initial => simpa [reportOf?, read] using ih

theorem fileReports_complete :
    ((b.fileReports disk base issues).flatMap (·.issues)).Perm
      (issues.filter (b.isProcessed disk base)) := by
  have distinct := (groupByFile_nodup (b.admitted disk base issues)).filter
    fun file => (disk.contentAt? file).isSome
  rw [fileReports, flatMap_reports]
  refine (flatMap_groups_perm distinct _).trans (.of_eq ?_)
  rw [admitted, List.filter_filter]
  apply List.filter_congr
  intro issue member
  have grouped : issue.file ∈ (groupByFile (b.admitted disk base issues)).keys ↔
      b.admits disk base issue.file = true :=
    mem_groups_admitted.trans (and_iff_left ⟨issue, member, rfl⟩)
  rw [admitted] at grouped
  rw [isProcessed, Bool.eq_iff_iff]
  simp [grouped, and_comm]

end Batch

def unknownVariable : Issue := ⟨"a.php", 2, "Undefined variable: $x", none, none⟩

/-- A file that can be read, one that cannot, and a directory that is locked. -/
def partlyReadable : FileTree where
  entries :=
    [(["a.php"], .file (Utf8.encode "<?php\necho $x;\n")),
      (["b.php"], .file (Utf8.encode "<?php\n") ⟨false, true⟩),
      (["private"], .directory true)]

/-- Diagnostics of a missing file and of one that cannot be read. -/
def passedOver : List Issue :=
  [⟨"b.php", 1, "Undefined variable: $y", none, none⟩,
    ⟨"c.php", 1, "Undefined variable: $y", none, none⟩]

/-- A file in a locked directory stops the run as well. -/
example : (Batch.standard Php.declarations?).MeetsFault (partlyReadable.disk []) none
    [unknownVariable, ⟨"private/d.php", 1, "Undefined variable: $y", none, none⟩] := by
  decide +kernel

end DocRepair
