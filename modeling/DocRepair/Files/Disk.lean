import DocRepair.Files.Path
import DocRepair.Text.Quoted

namespace DocRepair

/-- Why the system refuses a path. -/
inductive FileFault where
  | missing
  | denied
  | notDirectory
  | isDirectory
  | longName
  | looping
  | other (number : Nat) (text : Text)
  deriving DecidableEq, Repr

namespace FileFault

def number : FileFault → Nat
  | .missing => 2
  | .denied => 13
  | .notDirectory => 20
  | .isDirectory => 21
  | .longName => 36
  | .looping => 40
  | .other number _ => number

def text : FileFault → Text
  | .missing => "No such file or directory"
  | .denied => "Permission denied"
  | .notDirectory => "Not a directory"
  | .isDirectory => "Is a directory"
  | .longName => "File name too long"
  | .looping => "Too many levels of symbolic links"
  | .other _ text => text

/-- Whether a fault only says that a path leads nowhere. -/
def isAbsence : FileFault → Bool
  | .missing | .notDirectory | .looping => true
  | .denied | .isDirectory | .longName => false
  -- A bad descriptor counts as absence too.
  | .other number _ => number == 9

end FileFault

/-- A path that the system has refused. -/
structure SystemError where
  fault : FileFault
  path : Text
  deriving DecidableEq, Repr

def SystemError.message (e : SystemError) : Text :=
  "[Errno " ++ Text.ofNat e.fault.number ++ "] " ++ e.fault.text ++ ": " ++ e.path.quoted

/-- Why the links of a path cannot be resolved. -/
inductive LinkFault where
  | loop (path : Text)
  /-- Every link leads on to another one. -/
  | endless
  deriving DecidableEq, Repr

def LinkFault.message : LinkFault → Text
  | .loop path => "Symlink loop from " ++ path.quoted
  | .endless => "maximum recursion depth exceeded"

/-- The answers of a file system that does not change. -/
structure Disk where
  isFile : Text → Except SystemError Bool
  /-- Whether a path leads to anything. -/
  holds : Text → Except SystemError Bool
  read : Text → Except SystemError (List UInt8)
  /-- The path from the root on without links; a text that is no path has none. -/
  resolve : Text → Except LinkFault (Option Path)

/-- Why the place of a path is not found. -/
inductive PathFault where
  | system (e : SystemError)
  | links (fault : LinkFault)
  deriving DecidableEq, Repr

def PathFault.message : PathFault → Text
  | .system e => e.message
  | .links fault => fault.message

/-- The written path of what is there, from the root on; a path that leads nowhere stays as it is. -/
def Disk.settle (disk : Disk) (path : Text) : Except PathFault Text := do
  if ← (disk.holds path).mapError .system then
    let resolved ← (disk.resolve path).mapError .links
    return (resolved.map Path.toText).getD path
  else return path

end DocRepair
