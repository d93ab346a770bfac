import DocRepair.Files.FileTree
import DocRepair.Php.Source
import DocRepair.Proofs.Batch.FileGroups

/-!
Runs over the same diagnostics in another order.

Files do not see each other's diagnostics, and within a file only the order of diagnostics on one
line counts. Lists that agree in this are handled alike.
-/

namespace DocRepair

/-- The same diagnostics, those of one line of a file in the same order. -/
structure Interleaved (issues others : List Issue) : Prop where
  perm : issues.Perm others
  lines : ∀ (file : Text) (line : Int),
    issues.filter (fun issue => issue.file = file ∧ issue.line = line) =
      others.filter fun issue => issue.file = file ∧ issue.line = line

/-- Reports on the same files, with the same results and contents for each of them. -/
structure SameReports (reports others : List FileReport) : Prop where
  files : ∀ file, (∃ r ∈ reports, r.file = file) ↔ ∃ s ∈ others, s.file = file
  each : ∀ r ∈ reports, ∀ s ∈ others, r.file = s.file →
    r.results = s.results ∧ r.initialContent = s.initialContent ∧ r.finalContent = s.finalContent

variable {issues others : List Issue}

theorem Interleaved.bottomUp_eq (same : Interleaved issues others) (file : Text) :
    Batch.bottomUp (issues.filter fun issue => issue.file = file) =
      Batch.bottomUp (others.filter fun issue => issue.file = file) := by
  apply Batch.bottomUp_congr
  intro line
  have both := same.lines file line
  simp only [Bool.decide_and] at both
  simp only [List.filter_filter]
  simpa only [Bool.and_comm] using both

theorem Interleaved.symm (same : Interleaved issues others) : Interleaved others issues :=
  ⟨same.perm.symm, fun file line => (same.lines file line).symm⟩

theorem Interleaved.exists_file_iff (same : Interleaved issues others) (file : Text) :
    (∃ issue ∈ issues, issue.file = file) ↔ ∃ issue ∈ others, issue.file = file := by
  simp only [same.perm.mem_iff]

namespace Batch

variable (b : Batch) (disk : Disk) (base : Option Text)

theorem meetsFault_congr (same : Interleaved issues others) :
    b.MeetsFault disk base issues ↔ b.MeetsFault disk base others := by
  simp only [MeetsFault, same.perm.mem_iff]

/-- A report depends on the order of handling only, but for its list of diagnostics. -/
theorem fileReport_congr (file initial : Text) (same : bottomUp issues = bottomUp others) :
    (b.fileReport file issues initial).results = (b.fileReport file others initial).results ∧
      (b.fileReport file issues initial).initialContent =
        (b.fileReport file others initial).initialContent ∧
      (b.fileReport file issues initial).finalContent =
        (b.fileReport file others initial).finalContent := by
  have results : b.fixIssues issues initial = b.fixIssues others initial := by
    rw [fixIssues, fixIssues, same]
  simp only [fileReport, FileReport.ofResults, results, and_self]

theorem fileReports_congr (same : Interleaved issues others) :
    SameReports (b.fileReports disk base issues)
      (b.fileReports disk base others) := by
  have reported : ∀ {one two : List Issue}, Interleaved one two → ∀ file,
      (∃ r ∈ b.fileReports disk base one, r.file = file) →
        ∃ s ∈ b.fileReports disk base two, s.file = file := by
    rintro one two alike _ ⟨r, member, rfl⟩
    obtain ⟨file, ⟨fits, owned⟩, initial, read, rfl⟩ := mem_fileReports.mp member
    have there := (alike.exists_file_iff file).mp owned
    exact ⟨_, mem_fileReports.mpr ⟨file, ⟨fits, there⟩, initial, read, rfl⟩, rfl⟩
  refine ⟨fun file => ⟨reported same file, reported same.symm file⟩, ?_⟩
  intro r left s right
  obtain ⟨file, _, initial, read, rfl⟩ := mem_fileReports.mp left
  obtain ⟨file', _, initial', read', rfl⟩ := mem_fileReports.mp right
  simp only [fileReport_file]
  rintro rfl
  obtain rfl : initial = initial' := Option.some.inj (read.symm.trans read')
  exact b.fileReport_congr file initial (same.bottomUp_eq file)

end Batch

/-- How a run mixes files and lines makes no difference: either no run is stopped or both are, and
if they are not, they give the same reports. -/
theorem interleaving_irrelevant (same : Interleaved issues others) (b : Batch) (disk : Disk)
    (base : Option Text) :
    ((∃ halt, b.fixFiles disk base issues = .error halt) ↔ b.MeetsFault disk base issues) ∧
    ((∃ halt, b.fixFiles disk base others = .error halt) ↔ b.MeetsFault disk base issues) ∧
    (¬b.MeetsFault disk base issues →
      ∃ outcome other, b.fixFiles disk base issues = .ok outcome ∧
        b.fixFiles disk base others = .ok other ∧
        SameReports outcome.reports other.reports) := by
  have together := b.meetsFault_congr disk base same
  refine ⟨Batch.fixFiles_stops_iff, Batch.fixFiles_stops_iff.trans together.symm, ?_⟩
  intro free
  obtain ⟨outcome, done⟩ := Batch.fixFiles_succeeds_iff.mpr free
  obtain ⟨other, done'⟩ := Batch.fixFiles_succeeds_iff.mpr (mt together.mpr free)
  refine ⟨outcome, other, done, done', ?_⟩
  rw [Batch.reports_fixFiles done, Batch.reports_fixFiles done']
  exact b.fileReports_congr disk base same

/-- An undefined variable on a line of a file. -/
def undefinedAt (file : Text) (line : Int) : Issue :=
  ⟨file, line, "Undefined variable: $x", none, none⟩

def twoFiles : FileTree where
  entries :=
    [(["a.php"], .file (Utf8.encode "<?php\necho $x;\necho $x;\n")),
      (["b.php"], .file (Utf8.encode "<?php\necho $x;\n"))]

/-- Two lines of one file around a line of another, and from the bottom up. -/
theorem interleaving_irrelevant_sample :
    ∃ outcome other,
      (Batch.standard Php.declarations?).fixFiles (twoFiles.disk []) none
        [undefinedAt "a.php" 2, undefinedAt "b.php" 2, undefinedAt "a.php" 3] = .ok outcome ∧
      (Batch.standard Php.declarations?).fixFiles (twoFiles.disk []) none
        [undefinedAt "a.php" 3, undefinedAt "a.php" 2, undefinedAt "b.php" 2] = .ok other ∧
      SameReports outcome.reports other.reports := by
  refine (interleaving_irrelevant ⟨by decide +kernel, ?_⟩ _ _ _).2.2 (by decide +kernel)
  intro file line
  -- Either only the last diagnostic is there, or it is not.
  by_cases last : ("a.php" : Text) = file ∧ (3 : Int) = line
  · obtain ⟨rfl, rfl⟩ := last
    decide
  · simp [undefinedAt, List.filter_cons, last]

end DocRepair
