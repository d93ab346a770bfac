import DocRepair.Cli.Run
import DocRepair.Command.Shell
import DocRepair.Php.Source

namespace DocRepair.Cli

/-- The entries of a directory entry and of what lies below it. Hidden directories are left out,
and links count as what they lead to. -/
partial def entriesBelow (place : Place) (entry : IO.FS.DirEntry) :
    IO (List (Place × FileEntry)) := do
  let here := place ++ [Text.ofString entry.fileName]
  if ← entry.path.isDir then
    if entry.fileName.startsWith "." then return []
    try
      let mut below := [(here, FileEntry.directory)]
      for child in ← entry.path.readDir do
        below := below ++ (← entriesBelow here child)
      return below
    catch _ => return [(here, .directory true)]
  else
    try
      let bytes ← IO.FS.readBinFile entry.path
      return [(here, .file bytes.toList)]
    catch _ => return [(here, .file [] { readable := false })]

/-- The files of a directory without those below it. -/
def filesIn (directory : Place) : IO (List (Place × FileEntry)) := do
  let path := (← IO.currentDir) / (Place.toText directory).toString
  let mut found := []
  for entry in ← path.readDir do
    if !(← entry.path.isDir) then found := found ++ (← entriesBelow directory entry)
  return found

/-- The files around a working directory: those of the directories above it, and all below the
root of its project. -/
def treeAround (working : Place) : IO FileTree := do
  let mut entries := []
  for directory in working.upward do
    entries := entries ++ [(directory, .directory)] ++ (← filesIn directory)
  let root := match (FileTree.disk ⟨entries⟩ working).projectRoot? working with
    | .ok (some place) => place
    | _ => working
  for entry in ← ((← IO.currentDir) / (Place.toText root).toString).readDir do
    entries := entries ++ (← entriesBelow root entry)
  return ⟨entries⟩

/-- Writes the files that differ between two trees. -/
def writeChanges (before after : FileTree) : IO Unit := do
  for (place, entry) in after.entries do
    if before.get? place != some entry then
      if let .file bytes _ := entry then
        IO.FS.writeBinFile (Place.toText place).toString ⟨bytes.toArray⟩

/-- Runs the program in the working directory. -/
def runHere (arguments : List String) : IO UInt32 := do
  let working := (Path.ofText (← IO.currentDir).toString).parts
  let config := ((← IO.getEnv "STANFIX_CONFIG").map fun v =>
    (("STANFIX_CONFIG" : Text), Text.ofString v)).toList
  let tree ← treeAround working
  let world : World := {
    working
    environment := config
    catalogue := []
    analyze := Php.declarations?
    launch := fun tree place => Command.launcher ⟨tree, place, []⟩ }
  let outcome := run world tree (arguments.map Text.ofString)
  writeChanges tree outcome.screen.tree
  IO.print outcome.screen.output.toString
  IO.eprint outcome.screen.errors.toString
  if let some fault := outcome.escaped then
    IO.eprintln (Text.toString fault.message)
  return outcome.exitCode.toUInt32

end DocRepair.Cli

def main (arguments : List String) : IO UInt32 :=
  DocRepair.Cli.runHere arguments
