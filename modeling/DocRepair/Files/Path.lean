import DocRepair.Text.Search

namespace DocRepair

/-- A path as it is written: slashes at its start, and its parts. Parts that are empty or a single
dot are left out. -/
structure Path where
  /-- None for a relative path; two slashes at the start are kept, more count as one. -/
  slashes : Nat
  parts : List Text
  deriving DecidableEq, Repr

/-- A place below the root: the names on the way to it. -/
abbrev Place := List Text

namespace Path

/-- The part that stands for the directory itself. -/
def here : Text := "."

/-- The part that stands for the directory above. -/
def up : Text := ".."

/-- The parts that lead anywhere. -/
def effective (parts : List Text) : List Text :=
  parts.filter fun part => !part.isEmpty && part != here

def ofText (t : Text) : Path :=
  let lead := (t.takeWhile fun c : CodePoint => c == '/').length
  ⟨if lead = 2 then 2 else min lead 1, effective (t.splitAt '/')⟩

/-- Writes a path; the empty one is a single dot. -/
def toText (p : Path) : Text :=
  if p.slashes = 0 && p.parts.isEmpty then here
  else List.replicate p.slashes ('/' : CodePoint) ++ Text.join "/" p.parts

def ofPlace (place : Place) : Path := ⟨1, place⟩

/-- Whether a path starts at the root. -/
def isAbsolute (p : Path) : Bool := p.slashes != 0

/-- Goes along parts from a place; above the root there is only the root. -/
def follow : Place → List Text → Place
  | place, [] => place
  | place, part :: rest =>
    if part = up then follow place.dropLast rest else follow (place ++ [part]) rest

/-- The place of a path, seen from a working directory. -/
def resolve (working : Place) (p : Path) : Place :=
  follow (if p.isAbsolute then [] else working) p.parts

/-- The path one directory up. Above the root there is only the root, and a relative path goes up
from where it starts. -/
def above (p : Path) : Path :=
  if p.parts.getLast?.all (· = up) && !p.isAbsolute then ⟨p.slashes, p.parts ++ [up]⟩
  else ⟨p.slashes, p.parts.dropLast⟩

/-- The path with further parts; these stand alone if they begin at the root. -/
def join (p : Path) (parts : List Text) : Path :=
  let rest := Text.join "/" parts
  if rest.opensWith '/' then ofText rest else ⟨p.slashes, p.parts ++ effective parts⟩

/-- The path seen from another one above it. -/
def relativeTo? (base p : Path) : Option Text :=
  if p.slashes = base.slashes && base.parts.isPrefixOf p.parts then
    some (toText ⟨0, p.parts.drop base.parts.length⟩)
  else none

/-- The last part. -/
def name (p : Path) : Text := p.parts.getLast?.getD []

/-- The ending of the last part with its dot. A dot at the start or the end begins none. -/
def suffix (p : Path) : Text :=
  match p.name.cutLast? "." with
  | some (stem, ending) => if stem.isEmpty || ending.isEmpty then [] else "." ++ ending
  | none => []

end Path

def Place.toText (place : Place) : Text := (Path.ofPlace place).toText

end DocRepair
