import DocRepair.Diff.Script
import DocRepair.Number.Total
import DocRepair.Text.Lines
import DocRepair.Text.Utf8

namespace DocRepair.Diff

/-- Changes that stand close together, with the lines around them. -/
structure Hunk where
  /-- How many lines of the old and the new text come before. -/
  oldBefore : Nat
  newBefore : Nat
  segments : List Segment
  deriving DecidableEq, Repr

/-- The count of lines shown around a change. -/
def contextSize : Nat := 3

namespace Hunk

/-- The hunk with one more part. -/
def push (h : Hunk) (s : Segment) : Hunk :=
  { h with segments := h.segments ++ [s] }

/-- How many lines of the old text it covers. -/
def oldCount (h : Hunk) : Nat := total (·.oldLines.length) h.segments

/-- How many lines of the new text it covers. -/
def newCount (h : Hunk) : Nat := total (·.newLines.length) h.segments

end Hunk

/-- The hunks of the rest of a script, the first of which is already open. -/
def hunksFrom (oldReached newReached : Nat) (opened : Hunk) : List Segment → List Hunk
  | [] => [opened]
  | .changed removed added :: rest =>
    hunksFrom (oldReached + removed.length) (newReached + added.length)
      (opened.push (.changed removed added)) rest
  | [.kept lines] => [opened.push (.kept (lines.take contextSize))]
  | .kept lines :: rest =>
    let oldEnd := oldReached + lines.length
    let newEnd := newReached + lines.length
    if 2 * contextSize < lines.length then
      opened.push (.kept (lines.take contextSize)) ::
        hunksFrom oldEnd newEnd ⟨oldEnd - contextSize, newEnd - contextSize,
          [.kept (lines.drop (lines.length - contextSize))]⟩ rest
    else hunksFrom oldEnd newEnd (opened.push (.kept lines)) rest

/-- The hunks of a script; a script without changes has none. -/
def hunks : List Segment → List Hunk
  | [] => []
  | [.kept _] => []
  | .kept lines :: rest =>
    let skipped := lines.length - contextSize
    hunksFrom lines.length lines.length ⟨skipped, skipped, [.kept (lines.drop skipped)]⟩ rest
  | segments => hunksFrom 0 0 ⟨0, 0, []⟩ segments

/-- A range of lines: its first line and its length, which is left out if it is one. An empty range
gives the line before it. -/
def rangeText (before count : Nat) : Text :=
  if count = 1 then Text.ofNat (before + 1)
  else if count = 0 then Text.ofNat before ++ ",0"
  else Text.ofNat (before + 1) ++ "," ++ Text.ofNat count

/-- Lines after a mark. -/
def marked (mark : String) (lines : List Text) : Text :=
  lines.flatMap fun line => mark ++ line

def Segment.text : Segment → Text
  | .kept lines => marked " " lines
  | .changed removed added => marked "-" removed ++ marked "+" added

def Hunk.text (h : Hunk) : Text :=
  "@@ -" ++ rangeText h.oldBefore h.oldCount ++ " +" ++ rangeText h.newBefore h.newCount ++
    " @@\n" ++ h.segments.flatMap Segment.text

/-- The diff of two contents of a file; there is none if they are equal. -/
def unified (path old new : Text) : Text :=
  match hunks (script old.keepLines new.keepLines) with
  | [] => []
  | first :: rest =>
    "--- a/" ++ path ++ "\n" ++ "+++ b/" ++ path ++ "\n" ++ (first :: rest).flatMap Hunk.text

/-- A diff for display: undecodable bytes are shown as U+FFFD. -/
def display (path old new : Text) : Except Utf8.EncodeError Text :=
  (Utf8.encodeStrict (unified path old new)).map Utf8.decodeLossy

end DocRepair.Diff
