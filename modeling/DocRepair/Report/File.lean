import DocRepair.Report.Issues
import DocRepair.Text.Lines
import DocRepair.Text.Utf8

namespace DocRepair.Report

/-- Why the report in a file cannot be read. -/
inductive FileError where
  /-- The system does not tell whether there is a file. -/
  | system (e : SystemError)
  | undecodable (e : Utf8.DecodeError)
  | report (e : ReportError)
  deriving Repr

def FileError.message : FileError → Text
  | .system e => e.message
  | .undecodable e => e.message
  | .report e => e.message

/-- Whether an error is one of reports; other errors come from reading values and paths. -/
def FileError.isReported : FileError → Bool
  | .system _ | .undecodable _ => false
  | .report (.integer _) | .report (.unresolved _) | .report (.notJson _ (.longInteger _)) => false
  | .report _ => true

/-- Reads the report in the file at a path. -/
def ofFile (disk : Disk) (path : Path) : Except FileError Contents := do
  if !(← (disk.isFile path.toText).mapError .system) then
    throw (.report (.missingFile path.toText))
  let bytes ← (disk.read path.toText).mapError fun e =>
    .report (.unreadableFile path.toText e)
  let document ← (Utf8.decodeStrict bytes).mapError .undecodable
  (read disk.settle document.universalNewlines).mapError .report

end DocRepair.Report
