import DocRepair.Batch.Project
import DocRepair.Cli.Arguments
import DocRepair.Cli.Session
import DocRepair.Diff.Unified
import DocRepair.Display.Table
import DocRepair.Json.Indented

namespace DocRepair.Cli

/-- Whether changes are shown or written. -/
inductive Mode where
  | suggest
  | apply
  deriving DecidableEq, Repr

def Mode.text : Mode → Text
  | .suggest => "suggest"
  | .apply => "apply"

def Mode.all : List Mode := [.suggest, .apply]

def Mode.ofText? (word : Text) : Option Mode := Mode.all.find? (·.text == word)

/-- Reads the diagnostics from a file, or from what the analysis tool prints. -/
def loadIssues (w : World) (options : FixOptions) (projectRoot : Place) (silent : Bool) :
    Session (List Issue) := do
  let tree := (← get).tree
  let contents ← match options.input with
    | some path => pure (Report.ofFile (tree.disk w.working) (Path.ofText path))
    | none => do
      if !silent then printStyled ("Running PHPStan: " ++ options.command)
      match Command.run (w.launch tree projectRoot) options.command with
      | .ok document =>
        pure ((Report.read (tree.disk w.working).settle document).mapError .report)
      | .error .noCommand => throw (.escape .noCommand)
      | .error fault => fail fault.message systemError
  match contents with
  | .ok contents => return contents.issues
  | .error e => if e.isReported then fail e.message userError else throw (.escape (.report e))

/-! ## Results as a document -/

def fields (pairs : List (String × Datum)) : Datum :=
  .map (pairs.map fun (key, value) => (.text key, value))

def statisticsDatum (s : Statistics) : Datum :=
  fields [("total_files", .int s.totalFiles), ("files_fixed", .int s.filesFixed),
    ("total_issues", .int s.totalIssues), ("issues_fixed", .int s.issuesFixed),
    ("issues_failed", .int s.issuesFailed), ("issues_ignored", .int s.issuesIgnored),
    ("issues_reported", .int s.issuesReported)]

/-- Diagnostics by file, line and message. -/
def issuesDatum (issues : List Issue) : Datum :=
  .list (issues.map fun i =>
    fields [("file", .text i.file), ("line", .int i.line), ("message", .text i.message)])

/-- The report of a file; a mode that writes nothing shows the diff. -/
def reportDatum (mode : Mode) (r : FileReport) : Except Utf8.EncodeError Datum := do
  let diff ← if mode = .suggest && r.hasChanges then
      (Diff.display r.file r.initialContent r.finalContent).map fun d => [("diff", Datum.text d)]
    else pure []
  return fields ([("file", .text r.file), ("fixed", .int r.fixedCount),
    ("changes", .list ((r.results.filter (·.isSuccess)).map fun result => .text result.summary)),
    ("unfixed", issuesDatum r.unfixed), ("reported", issuesDatum r.reported),
    ("ignored", issuesDatum r.ignored)] ++ diff)

/-- What a run has come to, as fields of a document. -/
def resultFields (mode : Mode) (reports : List FileReport) :
    Except Utf8.EncodeError (List (String × Datum)) := do
  return [("mode", .text mode.text),
    ("statistics", statisticsDatum (Statistics.ofReports reports)),
    ("files", .list (← reports.mapM (reportDatum mode)))]

def printDocument (d : Datum) : Session Unit :=
  printRaw (Json.writeIndented d ++ Text.newline)

/-! ## Results as text -/

def statisticsTable (s : Statistics) : Display.Table where
  title := "Fix Results"
  columns := [⟨"Metric", false⟩, ⟨"Count", true⟩]
  rows := [["Total Files", Text.ofNat s.totalFiles], ["Files Fixed", Text.ofNat s.filesFixed],
    ["Total Issues", Text.ofNat s.totalIssues], ["Issues Fixed", Text.ofNat s.issuesFixed],
    ["Issues Ignored", Text.ofNat s.issuesIgnored],
    ["Issues Reported", Text.ofNat s.issuesReported],
    ["Issues Failed", Text.ofInt s.issuesFailed]]

/-- The bar that shows how many files are done. -/
def progressLine (done : Nat) : Text :=
  let count := Text.ofNat done
  let bar : Text := (List.replicate 40 ("━" : Text)).flatten
  "Fixing files " ++ bar ++ " " ++ count ++ "/" ++ count

/-- Prints the changes that are proposed for a file. -/
def printProposal (r : FileReport) : Session Unit := do
  printStyled ("[cyan]" ++ r.file ++ "[/cyan]")
  printPlain (← orEscape .unencodable (Diff.display r.file r.initialContent r.finalContent))
  r.results.forM fun result =>
    printPlain ((if result.isSuccess then "  ✓ " else "  ✗ ") ++ result.summary)

/-- Prints in one line what a run has come to. -/
def printSummary (s : Statistics) : Session Unit :=
  printStyled (Text.ofNat s.issuesFixed ++ "/" ++ Text.ofNat s.totalIssues ++
    " issue(s) fixed in " ++ Text.ofNat s.filesFixed ++ " file(s)")

/-- Prints what a run has come to: the counts, the proposed changes, and what is left. -/
def printResults (mode : Mode) (reports : List FileReport) : Session Unit := do
  printRaw (statisticsTable (Statistics.ofReports reports)).text
  if mode = .suggest then
    printStyled "\n[bold]Proposed Changes[/bold]"
    (reports.filter (·.hasChanges)).forM printProposal
    printStyled "Run with --mode=apply to apply these changes"
  let reported := reports.flatMap (·.reported)
  if !reported.isEmpty then
    printStyled "\n[bold]Reported Issues (not fixed per configuration)[/bold]"
    printPlain (issueLines reported)
  let unfixed := reports.flatMap (·.unfixed)
  if !unfixed.isEmpty then
    printStyled "\n[bold]Unfixed Issues (PHPStan format)[/bold]"
    complain ("[yellow]Warning:[/yellow] " ++ Text.ofNat unfixed.length ++
      " issue(s) could not be automatically fixed")
    printPlain (issueLines unfixed)
  let ignored := reports.flatMap (·.ignored)
  if !ignored.isEmpty then
    printStyled ("\n" ++ Text.ofNat ignored.length ++
      " issue(s) were ignored per configuration.")

def printWritten (written : List FileReport) : Session Unit := do
  written.forM fun r => printStyled ("[green]✓[/green] Fixed: " ++ r.file)
  if !written.isEmpty then
    printStyled ("[green]Success:[/green] Applied fixes to " ++ Text.ofNat written.length ++
      " file(s)")

/-! ## The command -/

/-- Writes the content of files up to the first that cannot be written. -/
def writeAll (w : World) (reports : List FileReport) : Session Unit :=
  reports.forM fun r => do
    match (← get).tree.write w.working r.file (Utf8.encode r.finalContent) with
    | .ok tree => modify fun s => { s with tree }
    | .error e => fail ("Failed to write " ++ r.file ++ ": " ++ e.message) systemError

/-- Fixes diagnostics, and writes the files that have changed if the mode says so. -/
def fixIssues (w : World) (options : FixOptions) (mode : Mode) (batch : Batch)
    (projectRoot : Place) (issues : List Issue) : Session Unit := do
  let silent := options.quiet || options.json
  if !silent then
    printStyled ("Found " ++ Text.ofNat issues.length ++ " issue(s) to fix")
  let disk := (← get).tree.disk w.working
  let outcome ← orEscape .halted (batch.fixFiles disk (some projectRoot.toText) issues)
  let reports := outcome.reports
  if !silent then printRaw (progressLine reports.length ++ Text.newline)
  let written := if mode = .apply then reports.filter (·.hasChanges) else []
  writeAll w written
  if options.json then
    let result ← orEscape .unencodable (resultFields mode reports)
    printDocument (fields (result ++ [("written", .list (written.map fun r => .text r.file))]))
  else if options.quiet then printSummary (Statistics.ofReports reports)
  else
    printResults mode reports
    if mode = .apply then printWritten written

def fix (w : World) (options : FixOptions) : Session Unit := do
  let some mode := Mode.ofText? options.mode
    | fail ("Invalid mode \"" ++ options.mode ++ "\". Must be one of: " ++
        Text.join ", " (Mode.all.map (·.text))) userError
  let found ← orEscape (.halted ∘ .system) (((← get).tree.disk w.working).projectRoot? w.working)
  let projectRoot := found.getD w.working
  let loaded ← loadConfiguration w options.config
  let configuration := match options.fixer with
    | some name => { loaded with enabledFixers := [name] }
    | none => loaded
  let issues ← loadIssues w options projectRoot (options.quiet || options.json)
  let registry ← buildRegistry w configuration
  if let some name := options.fixer then
    if (registry.find? name).isNone then
      fail ("Unknown fixer: " ++ name ++ ". Available: " ++ Text.join ", " registry.names) userError
  if !issues.isEmpty then fixIssues w options mode ⟨registry, configuration, w.expressions⟩ projectRoot issues
  else if options.json then
    printDocument (fields (← orEscape .unencodable (resultFields mode [])))
  else if !options.quiet then printStyled "[green]Success:[/green] No issues found!"

end DocRepair.Cli
