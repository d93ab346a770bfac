import DocRepair.Batch.FileReport
import DocRepair.Files.Disk
import DocRepair.Text.Utf8

/-!
Fixing the diagnostics of the files of a project.

All files are looked for and read before the first of them is handled. A file that is not there or
cannot be read is passed over; where the system does not even tell whether a file is there, the run
ends without reports.
-/

namespace DocRepair.Batch

/-- What is found where a file should be. -/
inductive Source where
  | missing
  | unreadable (e : SystemError)
  /-- Bytes that cannot be decoded are carried as escapes. -/
  | content (t : Text)
  deriving DecidableEq, Repr

def Source.content? : Source → Option Text
  | .content t => some t
  | .missing | .unreadable _ => none

/-- The line for the log about a file that cannot be read. -/
def Source.warning? (file : Text) : Source → Option Text
  | .unreadable e =>
    some ("WARNING: Skipping unreadable file " ++ file ++ ": " ++ e.message)
  | .missing | .content _ => none

/-- Looks for a file and reads it. -/
def sourceAt (disk : Disk) (file : Text) : Except SystemError Source := do
  if ← disk.isFile file then
    match disk.read file with
    | .ok bytes => return .content (Utf8.decode bytes)
    | .error e => return .unreadable e
  else return .missing

def readSources (disk : Disk) : List Text → Except SystemError (OrderedMap Text Source)
  | [] => return []
  | file :: rest => do
    let source ← sourceAt disk file
    return (file, source) :: (← readSources disk rest)

/-- The diagnostics whose files are processed. -/
def allowedIssues (b : Batch) (disk : Disk) (base : Option Text) :
    List Issue → Except Halt (List Issue)
  | [] => return []
  | issue :: rest => do
    let allowed ← b.configuration.allowsPath b.expressions disk base issue.file
    let others ← allowedIssues b disk base rest
    return if allowed then issue :: others else others

/-- Handles the diagnostics of all files that are allowed and can be read. -/
def fixFiles (b : Batch) (disk : Disk) (base : Option Text) (issues : List Issue) :
    Except Halt Outcome := do
  let kept ← b.allowedIssues disk base issues
  let sources ← (readSources disk (OrderedMap.keys (groupByFile kept))).mapError .system
  let outcome := b.fixAll (fun file => (sources.get? file).bind Source.content?) kept
  let warnings := sources.filterMap fun (file, source) => source.warning? file
  return { outcome with log := warnings ++ outcome.log }

end DocRepair.Batch
