import DocRepair.Number.Total
import DocRepair.OrderedMap
import DocRepair.Policy.Configuration
import DocRepair.Registry

/-!
Fixing all diagnostics of a run.

Within a file diagnostics are handled from the bottom up, so that an edit cannot move a line that
is still waiting; every diagnostic sees the content that the last success left.
-/

namespace DocRepair

/-- The fixers and the policy of a run. -/
structure Batch where
  registry : Registry
  configuration : Configuration
  expressions : Expressions := .standard

structure FileReport where
  file : Text
  /-- The diagnostics in their first order. -/
  issues : List Issue
  /-- One result for each, in the order of handling. -/
  results : List FixResult
  initialContent : Text
  finalContent : Text
  unfixed : List Issue
  reported : List Issue
  ignored : List Issue
  deriving Repr

namespace FileReport

def fixedCount (r : FileReport) : Nat := r.results.countP (·.isSuccess)

/-- Whether something was fixed. -/
def hasChanges (r : FileReport) : Bool := 0 < r.fixedCount

/-- The content after the last success. -/
def lastContent (initial : Text) (results : List FixResult) : Text :=
  results.foldl (fun content r => if r.isSuccess then r.content else content) initial

def ofResults (file : Text) (issues : List Issue) (results : List FixResult) (initial : Text) :
    FileReport where
  file
  issues
  results
  initialContent := initial
  finalContent := lastContent initial results
  unfixed := (results.filter (·.isFailure)).map (·.issue)
  reported := (results.filter (·.isReported)).map (·.issue)
  ignored := (results.filter (·.isIgnored)).map (·.issue)

end FileReport

namespace Batch

/-- Applies the policy to a diagnostic, and lets a fixer handle it if the policy says so. -/
def handle? (b : Batch) (issue : Issue) (content : Text) : Option Handled :=
  match b.configuration.actionFor b.expressions issue.message with
  | .ignore => some ⟨.ignored issue content, none⟩
  | .report => some ⟨.reported issue content, none⟩
  | .fix => b.registry.dispatch? issue content

/-- The result for a diagnostic; one that no fixer claims is a failure. -/
def handle (b : Batch) (issue : Issue) (content : Text) : Handled :=
  (b.handle? issue content).getD ⟨.failure issue content "No strategy could fix this issue", none⟩

/-- The content after a result. -/
def next (content : Text) (r : FixResult) : Text :=
  if r.isSuccess then r.content else content

/-- Handles diagnostics one after the other. -/
def handleAll (b : Batch) : List Issue → Text → List Handled
  | [], _ => []
  | issue :: rest, content =>
    let handled := b.handle issue content
    handled :: handleAll b rest (next content handled.result)

/-- The diagnostics of a file in the order of handling: by descending line. -/
def bottomUp (issues : List Issue) : List Issue :=
  issues.mergeSort fun a b => b.line ≤ a.line

def fixIssues (b : Batch) (issues : List Issue) (content : Text) : List Handled :=
  b.handleAll (bottomUp issues) content

def groupByFile (issues : List Issue) : OrderedMap Text (List Issue) :=
  issues.foldl (fun groups issue => groups.push issue.file issue) []

/-- One step of progress: how many files are done, of how many, and which one. -/
structure Progress where
  done : Nat
  total : Nat
  file : Text
  deriving DecidableEq, Repr

structure Outcome where
  reports : List FileReport
  log : List Text
  deriving Repr

/-- Handles the diagnostics of all files that have a content. -/
def fixAll (b : Batch) (source? : Text → Option Text) (issues : List Issue) : Outcome :=
  let done := (groupByFile issues).filterMap fun (file, fileIssues) =>
    (source? file).map fun initial =>
      let handled := b.fixIssues fileIssues initial
      (FileReport.ofResults file fileIssues (handled.map (·.result)) initial,
        handled.filterMap (·.log))
  ⟨done.map (·.1), done.flatMap (·.2)⟩

def progress (reports : List FileReport) : List Progress :=
  reports.mapIdx fun i report => ⟨i + 1, reports.length, report.file⟩

end Batch

structure Statistics where
  totalFiles : Nat
  filesFixed : Nat
  totalIssues : Nat
  issuesFixed : Nat
  issuesFailed : Int
  issuesIgnored : Nat
  issuesReported : Nat
  deriving DecidableEq, Repr

namespace Statistics

/-- The counts of the reports; a diagnostic that is neither fixed nor ignored nor reported has
failed. -/
def ofReports (reports : List FileReport) : Statistics :=
  let count := fun (f : FileReport → Nat) => total f reports
  { totalFiles := reports.length
    filesFixed := reports.countP (·.hasChanges)
    totalIssues := count (·.issues.length)
    issuesFixed := count (·.fixedCount)
    issuesFailed := (count (·.issues.length) : Int) - count (·.fixedCount) -
      count (·.ignored.length) - count (·.reported.length)
    issuesIgnored := count (·.ignored.length)
    issuesReported := count (·.reported.length) }

end Statistics

/-- Diagnostics as a list of lines with a file, a line number and a message. -/
def issueLines (issues : List Issue) : Text :=
  Text.join "\n" (issues.map fun i =>
    "  - " ++ i.file ++ ":" ++ Text.ofInt i.line ++ ": " ++ i.message)

end DocRepair
