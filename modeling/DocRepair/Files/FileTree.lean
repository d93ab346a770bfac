import DocRepair.Files.Disk
import DocRepair.Text.Utf8

/-!
A file system as a value: directories, files and links by their places.

A path is looked up part by part. Where a part is a link, the parts that it leads to come before
those that are left; the links on one way are counted, so that links which lead to each other end
in a fault.
-/

namespace DocRepair

/-- What may be done with a file. -/
structure Access where
  readable : Bool := true
  writable : Bool := true
  deriving DecidableEq, Repr

inductive FileEntry where
  /-- In a locked directory nothing can be looked up. -/
  | directory (locked : Bool := false)
  | file (bytes : List UInt8) (access : Access := {})
  | link (target : Text)
  deriving DecidableEq, Repr

def FileEntry.isFile : FileEntry → Bool
  | .file .. => true
  | .directory _ | .link _ => false

/-- Entries by their places. The root is always there. -/
structure FileTree where
  entries : List (Place × FileEntry) := []
  deriving Repr

/-- The greatest count of bytes of a name. -/
def longestName : Nat := 255

/-- The greatest count of bytes of a path. -/
def longestPath : Nat := 4095

/-- How many links are followed on one way. -/
def mostLinks : Nat := 40

/-- Whether a text can be given to the system as a path. -/
def isPath (t : Text) : Bool :=
  Utf8.isWritable t && !t.contains (.ofNat 0)

namespace FileTree

def get? (t : FileTree) (place : Place) : Option FileEntry :=
  if place.isEmpty then some .directory
  else (t.entries.find? fun (p, _) => p == place).map (·.2)

def put (t : FileTree) (place : Place) (entry : FileEntry) : FileTree :=
  ⟨(t.entries.filter fun (p, _) => p != place) ++ [(place, entry)]⟩

/-- Makes a directory and those above it; what is there stays. -/
def makeDirectories (t : FileTree) (place : Place) : FileTree :=
  (List.range place.length).foldl (fun t n =>
    let above := place.take (n + 1)
    if (t.get? above).isSome then t else t.put above .directory) t

/-! ### Looking up paths -/

/-- The outcome of a look-up: a place and what is there, which is no link. -/
abbrev Found := Except FileFault (Place × FileEntry)

/-- Goes along parts from a place up to the next link, from which `onward` goes on. -/
def walkToLink (t : FileTree) (onward : Place → List Text → Found) : Place → List Text → Found
  | place, [] =>
    match t.get? place with
    | some entry => .ok (place, entry)
    | none => .error .missing
  | place, part :: rest =>
    match t.get? place with
    | none => .error .missing
    | some (.directory locked) =>
      if part.isEmpty then walkToLink t onward place rest
      else if locked then .error .denied
      else if part = Path.here then walkToLink t onward place rest
      else if longestName < (Utf8.encode part).length then .error .longName
      else if part = Path.up then walkToLink t onward place.dropLast rest
      else
        match t.get? (place ++ [part]) with
        | none => .error .missing
        | some (.link target) =>
          onward (if target.opensWith '/' then [] else place) (target.splitAt '/' ++ rest)
        | some _ => walkToLink t onward (place ++ [part]) rest
    | some _ => .error .notDirectory

/-- Goes along parts from a place through so many links. -/
def walk (t : FileTree) : (links : Nat) → Place → List Text → Found
  | 0 => t.walkToLink fun _ _ => .error .looping
  | links + 1 => t.walkToLink (walk t links)

/-- What a path leads to from a working directory. -/
def find (t : FileTree) (working : Place) (path : Text) : Found :=
  if path.isEmpty then .error .missing
  else if longestPath < (Utf8.encode path).length then .error .longName
  else t.walk mostLinks (if path.opensWith '/' then [] else working) (path.splitAt '/')

/-- What the path leads to that a text is written for, if it leads to anything. -/
def status? (t : FileTree) (working : Place) (path : Text) :
    Except SystemError (Option FileEntry) :=
  let written := (Path.ofText path).toText
  if !isPath written then .ok none
  else
    match t.find working written with
    | .ok (_, entry) => .ok (some entry)
    | .error fault => if fault.isAbsence then .ok none else .error ⟨fault, written⟩

/-! ### Resolving links -/

/-- Where the link leads that a path names, if it names one. -/
def linkTarget? (t : FileTree) (working : Place) (p : Path) : Option Text :=
  if longestPath < (Utf8.encode p.toText).length then none
  else
    match t.walk mostLinks (if p.isAbsolute then [] else working) p.parts.dropLast with
    | .ok (place, .directory false) =>
      match t.get? (place ++ p.parts.drop (p.parts.length - 1)) with
      | some (.link target) => some target
      | _ => none
    | _ => none

/-- A path whose links are resolved, and whether that is so to its end. -/
abbrev Resolved := Except LinkFault (Path × Bool)

/-- Goes along parts after a path up to the next link, whose target `inner` resolves; `pending` are
the links that are being resolved. A link among these ends the way: it and the parts after it stay
as they are written. -/
def resolveToLink (t : FileTree) (working : Place)
    (inner : List Path → Path → List Text → Resolved) (pending : List Path) :
    Path → List Text → Resolved
  | path, [] => .ok (path, true)
  | path, part :: rest =>
    if part.isEmpty || part = Path.here then resolveToLink t working inner pending path rest
    else if part = Path.up then resolveToLink t working inner pending path.above rest
    else
      let next : Path := ⟨path.slashes, path.parts ++ [part]⟩
      match t.linkTarget? working next with
      | none => resolveToLink t working inner pending next rest
      | some target =>
        if pending.contains next then .ok (next.join rest, false)
        else
          let start : Path := if target.opensWith '/' then ⟨1, []⟩ else path
          match inner (next :: pending) start (target.splitAt '/') with
          | .ok (resolved, true) => resolveToLink t working inner pending resolved rest
          | .ok (stopped, false) => .ok (stopped.join rest, false)
          | .error fault => .error fault

/-- Goes along parts after a path with so many links within each other. -/
def resolveLinks (t : FileTree) (working : Place) :
    (depth : Nat) → List Path → Path → List Text → Resolved
  | 0 => fun _ _ _ => .error .endless
  | depth + 1 => t.resolveToLink working (resolveLinks t working depth)

/-- The path from the root on to which a path from a working directory leads. No link is pending
twice under one name. It has one name from the root and one for each directory from the working one
upwards; a second name that goes up beyond the root means that there is no end. -/
def resolve (t : FileTree) (working : Place) (path : Text) : Except LinkFault (Option Path) :=
  let p := Path.ofText path
  if !isPath p.toText then .ok none
  else
    let depth := t.entries.length * (working.length + 3) + 1
    match t.resolveLinks working depth [] ⟨min p.slashes 1, []⟩ p.parts with
    | .error fault => .error fault
    | .ok (resolved, _) =>
      let whole : Path := ⟨max resolved.slashes 1, resolved.resolve working⟩
      match t.find [] whole.toText with
      | .error .looping => .error (.loop whole.toText)
      | _ => .ok (some whole)

/-! ### Files -/

/-- The bytes of the file that a path leads to. -/
def read (t : FileTree) (working : Place) (path : Text) : Except SystemError (List UInt8) :=
  match t.find working path with
  | .ok (_, .file bytes access) => if access.readable then .ok bytes else .error ⟨.denied, path⟩
  | .ok (_, .directory true) => .error ⟨.denied, path⟩
  | .ok _ => .error ⟨.isDirectory, path⟩
  | .error fault => .error ⟨fault, path⟩

/-- Replaces the file that a path leads to. -/
def write (t : FileTree) (working : Place) (path : Text) (bytes : List UInt8) :
    Except SystemError FileTree :=
  match t.find working path with
  | .ok (place, .file _ access) =>
    if access.writable then .ok (t.put place (.file bytes access)) else .error ⟨.denied, path⟩
  | .ok _ => .error ⟨.isDirectory, path⟩
  | .error fault => .error ⟨fault, path⟩

/-- The answers for paths from a working directory. -/
def disk (t : FileTree) (working : Place) : Disk where
  isFile path := (t.status? working path).map (·.any FileEntry.isFile)
  holds path := (t.status? working path).map Option.isSome
  read path := t.read working path
  resolve path := t.resolve working path

end FileTree

end DocRepair
