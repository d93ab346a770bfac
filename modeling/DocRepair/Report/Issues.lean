import DocRepair.Files.Disk
import DocRepair.Issue.Basic
import DocRepair.Json.Reader
import DocRepair.Number.Total
import DocRepair.Report.Integer

/-!
Reading the diagnostics of a report.

A report lists its messages by file, or in one list in which every message names its file. Entries
without a message or a line are passed over and counted.
-/

namespace DocRepair.Report

/-- Why a report cannot be read. -/
inductive ReportError where
  | missingFile (path : Text)
  | unreadableFile (path : Text) (e : SystemError)
  | notJson (document : Text) (error : Json.ReadError)
  | notMapping
  | integer (fault : IntegerFault)
  | unresolved (fault : PathFault)
  deriving Repr

def ReportError.message : ReportError → Text
  | .missingFile path => "PHPStan JSON file not found: " ++ path
  | .unreadableFile path e => "Could not read PHPStan JSON file: " ++ path ++ ": " ++ e.message
  | .notJson document (.fault what place) =>
    "Invalid JSON in PHPStan output: " ++ (Json.ReadError.fault what place).message document
  | .notJson document error => error.message document
  | .notMapping => "PHPStan output must be a JSON object"
  | .integer fault => fault.message
  | .unresolved fault => fault.message

/-- A report that has been read: its diagnostics and how many messages it counts. -/
structure Contents where
  issues : List Issue
  total : Int
  deriving Repr

/-- The lines for the log: messages that were passed over are counted. -/
def Contents.log (c : Contents) : List Text :=
  let skipped := c.total - c.issues.length
  if skipped > 0 then
    ["INFO: Skipped " ++ Text.ofInt skipped ++ " report message(s) without a usable file line"]
  else []

/-- The diagnostic of an entry, if it has a message and a line; `locate` gives the path of a file. -/
def issue? (locate : Text → Except PathFault Text) (file : Text) (entry : Datum) :
    Except ReportError (Option Issue) :=
  match entry with
  | .map fields =>
    match Datum.lookup fields "message" with
    | some (.text message) => do
      match ← (integer? ((Datum.lookup fields "line").getD .null)).mapError .integer with
      | none => return none
      | some line =>
        let path ← (locate file).mapError .unresolved
        let column ← (integer? ((Datum.lookup fields "column").getD .null)).mapError .integer
        return some {
          file := path
          line
          message
          identifier := (Datum.lookup fields "identifier").bind Datum.text?
          column }
    | _ => .ok none
  | _ => .ok none

/-- The entries of a report in order, each with its file. -/
def entries (fields : List (Datum × Datum)) : List (Text × Datum) :=
  match Datum.lookup fields "files", Datum.lookup fields "messages" with
  | some (.map files), _ => files.flatMap fun (file, data) =>
    match file, data.get? "messages" with
    | .text path, some (.list messages) => messages.map (path, ·)
    | _, _ => []
  | _, some (.list messages) => messages.filterMap fun entry =>
    match entry.get? "file" with
    | some (.text path) => some (path, entry)
    | _ => none
  | _, _ => []

/-- How many messages are listed for a file. -/
def messageCount (data : Datum) : Nat :=
  match data.get? "messages" with
  | some (.list messages) => messages.length
  | _ => 0

/-- How many messages a report counts: as it says itself, or those that are listed by file. -/
def total (fields : List (Datum × Datum)) : Int :=
  match (Datum.lookup fields "totals").bind (·.get? "file_errors") with
  | some (.int n) => n
  | some (.bool b) => if b then 1 else 0
  | _ =>
    match Datum.lookup fields "files" with
    | some (.map files) => DocRepair.total (fun (_, data) => messageCount data) files
    | _ => 0

/-- The diagnostics of entries, in order. -/
def issues (locate : Text → Except PathFault Text) (entries : List (Text × Datum)) :
    Except ReportError (List Issue) :=
  match entries with
  | [] => .ok []
  | (file, entry) :: rest => do
    let first ← issue? locate file entry
    return first.toList ++ (← issues locate rest)

def read (locate : Text → Except PathFault Text) (document : Text) : Except ReportError Contents :=
  match Json.read document with
  | .error error => .error (.notJson document error)
  | .ok (.map fields) =>
    (issues locate (entries fields)).map fun found => ⟨found, total fields⟩
  | .ok _ => .error .notMapping

end DocRepair.Report
