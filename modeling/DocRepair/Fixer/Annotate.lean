import DocRepair.Docblock.Edit
import DocRepair.Docblock.Location
import DocRepair.Fixer.Result

/-!
The edit that most fixers make: a tag is added to the docblock above a declaration, or a new block
with that tag is put there. Every other line and the line endings stay as they are.
-/

namespace DocRepair

open Docblock

/-- A tag to be added above a line, and when it is there already. -/
structure Addition where
  /-- The line of the declaration, counted from one. -/
  line : Int
  tag : Text
  value : Text
  /-- Whether the block that is there carries the tag already. -/
  present : Annotations → Bool
  presentReason : Text
  description : Text

/-- The lines from one index to another put in place by others. -/
def replaceLines (lines : List Text) (first last : Nat) (new : List Text) : List Text :=
  lines.take first ++ new ++ lines.drop (last + 1)

/-- A block of one tag, indented like a line. -/
def indentedBlock (anchor tag value : Text) : List Text :=
  (addTag [] tag value).lines.map (anchor.indent ++ ·)

namespace Addition

/-- The lines with the tag added above an index; none if the tag is there already. -/
def insertAt? (a : Addition) (lines : List Text) (index : Nat) : Option (List Text) :=
  match locateAt? lines index with
  | some block =>
    if a.present (parse block.text) then none
    else some (replaceLines lines block.firstLine block.lastLine
      (addTag block.text a.tag a.value).lines)
  | none =>
    some (lines.take index ++ indentedBlock ((lines[index]?).getD []) a.tag a.value ++
      lines.drop index)

/-- Adds the tag to a content. -/
def apply (a : Addition) (issue : Issue) (content : Text) : FixResult :=
  let ending := LineEnding.detect content
  let lines := ending.split content
  if a.line < 1 || (lines.length : Int) < a.line then
    .failure issue content ("Line " ++ Text.ofInt a.line ++ " is outside the file")
  else
    match a.insertAt? lines (a.line - 1).toNat with
    | none => .failure issue content a.presentReason
    | some edited =>
      .success issue (ending.join edited) (some a.description)
        ["Added " ++ tagText a.tag a.value ++ " at line " ++ Text.ofInt a.line]

end Addition

/-- Whether some entry of a tag has a name. -/
def Docblock.Annotations.hasName (annotations : Annotations) (tag name : Text) : Bool :=
  (annotations.listOf tag).any (·.name == some name)

def Docblock.Annotations.hasTag (annotations : Annotations) (tag : Text) : Bool :=
  !(annotations.listOf tag).isEmpty

end DocRepair
