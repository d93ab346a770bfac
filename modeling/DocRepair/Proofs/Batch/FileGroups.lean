import DocRepair.Batch.Project
import DocRepair.Proofs.Batch.Steps
import DocRepair.Proofs.OrderedMap
import DocRepair.Proofs.Outcome

/-!
The diagnostics of a run by file, and the order in which those of one file are handled.

A file collects its diagnostics in the order of the run. They are handled by descending line, and
those of one line in the order in which they came: this leaves one order only. A run gives reports
unless it cannot tell of one of its files whether it is to be processed or whether it is there.
-/

namespace DocRepair

/-! ### The order of handling -/

/-- The diagnostics by descending line, those of one line in their old order. -/
structure SortedBottomUp (issues sorted : List Issue) : Prop where
  perm : sorted.Perm issues
  descending : sorted.Pairwise fun a b => b.line ≤ a.line
  stable : ∀ line : Int,
    sorted.filter (fun issue => issue.line = line) = issues.filter fun issue => issue.line = line

namespace Batch

theorem filter_bottomUp (issues : List Issue) (line : Int) :
    (bottomUp issues).filter (fun issue => issue.line = line) =
      issues.filter fun issue => issue.line = line :=
  filter_mergeSort_level (·.line) line issues

theorem bottomUp_sortedBottomUp (issues : List Issue) : SortedBottomUp issues (bottomUp issues) :=
  ⟨bottomUp_perm issues, bottomUp_sorted issues, filter_bottomUp issues⟩

end Batch

private theorem mem_iff_of_lines {xs ys : List Issue}
    (same : ∀ line : Int, xs.filter (fun issue => issue.line = line) =
      ys.filter fun issue => issue.line = line) (issue : Issue) : issue ∈ xs ↔ issue ∈ ys := by
  have members : issue ∈ xs.filter (fun other => other.line = issue.line) ↔
      issue ∈ ys.filter fun other => other.line = issue.line := by rw [same]
  simpa using members

/-- By descending line, diagnostics stand in the order that those of each line have. -/
theorem eq_of_descending {xs ys : List Issue} (left : xs.Pairwise fun a b => b.line ≤ a.line)
    (right : ys.Pairwise fun a b => b.line ≤ a.line)
    (same : ∀ line : Int, xs.filter (fun issue => issue.line = line) =
      ys.filter fun issue => issue.line = line) : xs = ys := by
  induction xs generalizing ys with
  | nil =>
    symm
    apply List.eq_nil_iff_forall_not_mem.mpr
    intro issue member
    exact List.not_mem_nil ((mem_iff_of_lines same issue).mpr member)
  | cons x xs ih =>
    have members := mem_iff_of_lines same
    cases ys with
    | nil => simpa using members x
    | cons y ys =>
      obtain ⟨top, descends⟩ := List.pairwise_cons.mp left
      obtain ⟨above, descends'⟩ := List.pairwise_cons.mp right
      have level : x.line = y.line := by
        have below : x.line ≤ y.line := by
          rcases List.mem_cons.mp ((members x).mp (by simp)) with rfl | later
          · exact Int.le_refl _
          · exact above x later
        have atLeast : y.line ≤ x.line := by
          rcases List.mem_cons.mp ((members y).mpr (by simp)) with rfl | later
          · exact Int.le_refl _
          · exact top y later
        omega
      have first := same y.line
      simp only [level, List.filter_cons, decide_true, ↓reduceIte, List.cons.injEq] at first
      obtain rfl := first.1
      have rest : ∀ line : Int, xs.filter (fun issue => issue.line = line) =
          ys.filter fun issue => issue.line = line := by
        intro line
        have both := same line
        simp only [List.filter_cons] at both
        split at both
        · exact (List.cons.inj both).2
        · exact both
      rw [ih descends descends' rest]

theorem Batch.bottomUp_congr {issues others : List Issue}
    (same : ∀ line : Int, issues.filter (fun issue => issue.line = line) =
      others.filter fun issue => issue.line = line) : bottomUp issues = bottomUp others := by
  apply eq_of_descending (bottomUp_sorted issues) (bottomUp_sorted others)
  intro line
  rw [filter_bottomUp, filter_bottomUp, same]

/-! ### Groups -/

namespace Batch

variable (issues : List Issue)

theorem groupByFile_eq_pushAll :
    groupByFile issues =
      OrderedMap.pushAll [] (issues.map fun issue => (issue.file, issue)) := by
  rw [groupByFile, OrderedMap.pushAll, List.foldl_map]

theorem groupByFile_nodup : (groupByFile issues).keys.Nodup := by
  rw [groupByFile_eq_pushAll, OrderedMap.keys_pushAll]
  exact OrderedMap.withNew_nodup _ List.nodup_nil

theorem listOf_groupByFile (file : Text) :
    (groupByFile issues).listOf file = issues.filter fun issue => issue.file = file := by
  rw [groupByFile_eq_pushAll, OrderedMap.listOf_pushAll]
  simp [List.filter_map, Function.comp_def, OrderedMap.listOf, OrderedMap.get?]

theorem mem_groupByFile (file : Text) :
    file ∈ (groupByFile issues).keys ↔ ∃ issue ∈ issues, issue.file = file := by
  rw [groupByFile_eq_pushAll, OrderedMap.keys_pushAll, OrderedMap.mem_withNew]
  simp [OrderedMap.keys]

/-! ### Reports -/

def fileReport (b : Batch) (file : Text) (issues : List Issue) (initial : Text) : FileReport :=
  .ofResults file issues ((b.fixIssues issues initial).map (·.result)) initial

@[simp] theorem fileReport_file (b : Batch) (file : Text) (issues : List Issue) (initial : Text) :
    (b.fileReport file issues initial).file = file :=
  rfl

@[simp] theorem fileReport_issues (b : Batch) (file : Text) (issues : List Issue) (initial : Text) :
    (b.fileReport file issues initial).issues = issues :=
  rfl

/-- The report of a file in a run, if the file has a content. -/
def reportOf? (b : Batch) (source? : Text → Option Text) (issues : List Issue) (file : Text) :
    Option FileReport :=
  (source? file).map (b.fileReport file (issues.filter fun issue => issue.file = file))

theorem reports_fixAll (b : Batch) (source? : Text → Option Text) :
    (b.fixAll source? issues).reports =
      (groupByFile issues).keys.filterMap (b.reportOf? source? issues) := by
  have listed := OrderedMap.eq_map_listOf (groupByFile_nodup issues)
  rw [fixAll]
  simp only
  rw [List.map_filterMap]
  conv_lhs => rw [listed]
  rw [List.filterMap_map]
  apply List.filterMap_congr
  intro file _
  simp only [Function.comp_apply, Option.map_map, listOf_groupByFile]
  rfl

end Batch

/-! ### What is read -/

/-- The text of a file that is there and can be read. -/
def Disk.contentAt? (disk : Disk) (file : Text) : Option Text :=
  match disk.isFile file, disk.read file with
  | .ok true, .ok bytes => some (Utf8.decode bytes)
  | _, _ => none

namespace Batch

variable {disk : Disk} {file : Text} {files : List Text}

theorem content?_of_sourceAt {source : Source} (found : sourceAt disk file = .ok source) :
    source.content? = disk.contentAt? file := by
  obtain ⟨there, answered, rest⟩ := Outcome.bind_eq_ok_iff.mp found
  cases there with
  | false =>
    cases rest
    simp [Source.content?, Disk.contentAt?, answered]
  | true =>
    cases given : disk.read file <;> simp only [given, ↓reduceIte] at rest <;> cases rest <;>
      simp [Source.content?, Disk.contentAt?, answered, given]

theorem sourceAt_succeeds_iff :
    (∃ source, sourceAt disk file = .ok source) ↔ ∃ there, disk.isFile file = .ok there := by
  rw [sourceAt, Outcome.succeeds_bind_iff]
  apply exists_congr
  intro there
  apply and_iff_left
  cases there with
  | false => exact ⟨_, rfl⟩
  | true => cases given : disk.read file <;> exact ⟨_, rfl⟩

theorem readSources_succeeds_iff :
    (∃ sources, readSources disk files = .ok sources) ↔
      ∀ file ∈ files, ∃ there, disk.isFile file = .ok there := by
  induction files with
  | nil => exact iff_of_true ⟨_, rfl⟩ fun _ member => nomatch member
  | cons first rest ih =>
    rw [List.forall_mem_cons, ← ih, ← sourceAt_succeeds_iff, readSources,
      Outcome.succeeds_bind_iff]
    simp only [Outcome.succeeds_bind_iff, Outcome.succeeds_pure_iff, and_true,
      exists_and_right]

theorem content?_readSources {sources : OrderedMap Text Source}
    (done : readSources disk files = .ok sources) (member : file ∈ files) :
    (sources.get? file).bind Source.content? = disk.contentAt? file := by
  induction files generalizing sources with
  | nil => cases member
  | cons first rest ih =>
    obtain ⟨source, found, later⟩ := Outcome.bind_eq_ok_iff.mp done
    obtain ⟨others, read, whole⟩ := Outcome.bind_eq_ok_iff.mp later
    cases whole
    by_cases same : first = file
    · subst same
      simpa [OrderedMap.get?] using content?_of_sourceAt found
    · have inside : file ∈ rest := (List.mem_cons.mp member).resolve_left (Ne.symm same)
      simpa [OrderedMap.get?, same] using ih read inside

/-! ### Runs over files -/

section

variable (b : Batch) (disk : Disk) (base : Option Text) (issues : List Issue)

def admits (file : Text) : Bool :=
  match b.configuration.allowsPath b.expressions disk base file with
  | .ok allowed => allowed
  | .error _ => false

/-- Whether a file stops a run: it cannot be told whether it is to be processed or, if it is,
whether it is there. -/
def stopsAt (file : Text) : Bool :=
  match b.configuration.allowsPath b.expressions disk base file with
  | .error _ => true
  | .ok allowed =>
    allowed &&
      match disk.isFile file with
      | .ok _ => false
      | .error _ => true

/-- Whether a file of a run stops it. -/
def MeetsFault : Prop := ∃ issue ∈ issues, b.stopsAt disk base issue.file = true

instance : Decidable (b.MeetsFault disk base issues) :=
  inferInstanceAs (Decidable (∃ issue ∈ issues, _))

def admitted : List Issue := issues.filter fun issue => b.admits disk base issue.file

/-- The reports of a run that meets no fault. -/
def fileReports : List FileReport :=
  (groupByFile (b.admitted disk base issues)).keys.filterMap
    (b.reportOf? disk.contentAt? (b.admitted disk base issues))

variable {b disk base issues}

theorem stopsAt_eq_false_iff :
    b.stopsAt disk base file = false ↔
      (∃ allowed, b.configuration.allowsPath b.expressions disk base file = .ok allowed) ∧
        (b.admits disk base file = true → ∃ there, disk.isFile file = .ok there) := by
  rw [stopsAt, admits]
  cases decided : b.configuration.allowsPath b.expressions disk base file with
  | error halt => simp
  | ok allowed => cases answered : disk.isFile file <;> simp

theorem allowedIssues_eq_ok_iff {kept : List Issue} :
    b.allowedIssues disk base issues = .ok kept ↔
      (∀ issue ∈ issues, ∃ allowed,
        b.configuration.allowsPath b.expressions disk base issue.file = .ok allowed) ∧
      kept = b.admitted disk base issues := by
  induction issues generalizing kept with
  | nil =>
    constructor
    · rintro ⟨⟩
      refine ⟨?_, rfl⟩
      rintro _ ⟨⟩
    · rintro ⟨-, rfl⟩
      rfl
  | cons issue rest ih =>
    simp only [allowedIssues, Outcome.bind_eq_ok_iff, List.forall_mem_cons, ih, admitted,
      List.filter_cons, admits, pure, Except.pure, Except.ok.injEq]
    constructor
    · rintro ⟨allowed, decided, others, ⟨later, rfl⟩, rfl⟩
      exact ⟨⟨⟨allowed, decided⟩, later⟩, by simp [decided]⟩
    · rintro ⟨⟨⟨allowed, decided⟩, later⟩, rfl⟩
      exact ⟨allowed, decided, _, ⟨later, rfl⟩, by simp [decided]⟩

theorem mem_groups_admitted :
    file ∈ (groupByFile (b.admitted disk base issues)).keys ↔
      b.admits disk base file = true ∧ ∃ issue ∈ issues, issue.file = file := by
  rw [mem_groupByFile]
  simp only [admitted, List.mem_filter]
  constructor
  · rintro ⟨issue, ⟨member, fits⟩, rfl⟩
    exact ⟨fits, issue, member, rfl⟩
  · rintro ⟨fits, issue, member, rfl⟩
    exact ⟨issue, ⟨member, fits⟩, rfl⟩

theorem filter_admitted (fits : b.admits disk base file = true) :
    ((b.admitted disk base issues).filter fun issue => issue.file = file) =
      issues.filter fun issue => issue.file = file := by
  rw [admitted, List.filter_filter]
  apply List.filter_congr
  intro issue _
  by_cases same : issue.file = file
  · simp [same, fits]
  · simp [same]

/-- The reports are those of the files with diagnostics that are to be processed and can be
read. -/
theorem mem_fileReports {r : FileReport} :
    r ∈ b.fileReports disk base issues ↔
      ∃ file, (b.admits disk base file = true ∧ ∃ issue ∈ issues, issue.file = file) ∧
        ∃ initial, disk.contentAt? file = some initial ∧
          b.fileReport file (issues.filter fun issue => issue.file = file) initial = r := by
  simp only [fileReports, List.mem_filterMap, reportOf?, Option.map_eq_some_iff,
    mem_groups_admitted]
  apply exists_congr
  intro file
  apply and_congr_right
  intro fits
  rw [filter_admitted fits.1]

/-- A run gives reports exactly if none of its files stops it. -/
theorem fixFiles_succeeds_iff :
    (∃ outcome, b.fixFiles disk base issues = .ok outcome) ↔ ¬b.MeetsFault disk base issues := by
  have passes : ¬b.MeetsFault disk base issues ↔
      (∀ issue ∈ issues, ∃ allowed,
        b.configuration.allowsPath b.expressions disk base issue.file = .ok allowed) ∧
      ∀ issue ∈ issues, b.admits disk base issue.file = true →
        ∃ there, disk.isFile issue.file = .ok there := by
    simp only [MeetsFault, not_exists, not_and, Bool.not_eq_true, stopsAt_eq_false_iff]
    exact ⟨fun each => ⟨fun issue member => (each issue member).1,
      fun issue member => (each issue member).2⟩,
      fun both issue member => ⟨both.1 issue member, both.2 issue member⟩⟩
  simp only [passes, fixFiles, Outcome.succeeds_bind_iff, Outcome.mapError_eq_ok_iff,
    Outcome.succeeds_pure_iff, and_true, allowedIssues_eq_ok_iff, readSources_succeeds_iff]
  constructor
  · rintro ⟨kept, ⟨decided, rfl⟩, answered⟩
    refine ⟨decided, fun issue member fits => answered issue.file ?_⟩
    exact mem_groups_admitted.mpr ⟨fits, issue, member, rfl⟩
  · rintro ⟨decided, answered⟩
    refine ⟨_, ⟨decided, rfl⟩, fun file grouped => ?_⟩
    obtain ⟨fits, issue, member, rfl⟩ := mem_groups_admitted.mp grouped
    exact answered issue member fits

theorem fixFiles_stops_iff :
    (∃ halt, b.fixFiles disk base issues = .error halt) ↔ b.MeetsFault disk base issues := by
  rw [← not_iff_not, ← fixFiles_succeeds_iff]
  cases b.fixFiles disk base issues <;> simp

theorem reports_fixFiles {outcome : Outcome} (done : b.fixFiles disk base issues = .ok outcome) :
    outcome.reports = b.fileReports disk base issues := by
  obtain ⟨kept, allowed, rest⟩ := Outcome.bind_eq_ok_iff.mp done
  obtain ⟨sources, read, last⟩ := Outcome.bind_eq_ok_iff.mp rest
  obtain ⟨-, rfl⟩ := allowedIssues_eq_ok_iff.mp allowed
  cases last
  rw [fileReports, reports_fixAll]
  apply List.filterMap_congr
  intro file grouped
  rw [reportOf?, reportOf?, content?_readSources (Outcome.mapError_eq_ok_iff.mp read) grouped]

end

end Batch

end DocRepair
