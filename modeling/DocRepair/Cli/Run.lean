import DocRepair.Cli.Fix

namespace DocRepair.Cli

def version : Text := "0.3.0"

def registrationsDatum (registrations : List Registration) : Datum :=
  .list (registrations.map fun r =>
    fields [("name", .text r.fixer.name), ("priority", .int r.priority),
      ("enabled", .bool r.enabled), ("description", .text r.fixer.description)])

def cell (t : Text) : Session Text := do
  return Display.forTerminal (← orEscape .markup (Display.withoutTags t))

def registrationRow (r : Registration) : Session (List Text) := do
  return [← cell r.fixer.name, Text.ofInt r.priority, if r.enabled then "yes" else "no",
    ← cell r.fixer.description]

/-- The command that lists the fixers in the order in which they are asked. -/
def list (w : World) (options : ListOptions) : Session Unit := do
  let configuration ← loadConfiguration w options.config
  let registry ← buildRegistry w configuration
  let registrations := registry.dispatchOrder
  if options.json then printDocument (registrationsDatum registrations)
  else
    let rows ← registrations.mapM registrationRow
    let table : Display.Table := {
      title := "Fixers"
      columns := [⟨"Name", false⟩, ⟨"Priority", true⟩, ⟨"Enabled", false⟩, ⟨"Description", false⟩]
      rows }
    printRaw table.text

def perform (w : World) : Request → Session Unit
  | .version => printRaw ("stanfix version " ++ version ++ Text.newline)
  | .fix options => fix w options
  | .list options => list w options

/-- The code for arguments that ask nothing. -/
def usageError : Nat := 2

/-- Reads arguments and does what they ask. -/
def session (w : World) (arguments : List Text) : Session Unit :=
  match Request.ofArguments arguments with
  | .ok request => perform w request
  | .error e => do
    complainPlain ("Error: " ++ e.message)
    throw (.exit usageError)

/-- How a run has ended: its code, what has been printed and written, and a fault that it has no
message for. -/
structure Outcome where
  exitCode : Nat
  screen : Screen
  escaped : Option Escape := none

def run (w : World) (tree : FileTree) (arguments : List Text) : Outcome :=
  match (session w arguments).run.run { tree } with
  | (.ok (), screen) => { exitCode := 0, screen }
  | (.error (.exit code), screen) => { exitCode := code, screen }
  | (.error (.escape e), screen) => { exitCode := userError, screen, escaped := some e }

end DocRepair.Cli
