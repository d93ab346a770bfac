import DocRepair.Text.Columns
import DocRepair.Text.Search

namespace DocRepair.Display

structure Column where
  title : Text
  rightAligned : Bool := false
  deriving DecidableEq, Repr

/-- A table; every row has a cell for each column. -/
structure Table where
  title : Text
  columns : List Column
  rows : List (List Text)
  deriving DecidableEq, Repr

def blanks (n : Nat) : Text := List.replicate n ' '

/-- A cell filled up with blanks to a width. -/
def fitted (rightAligned : Bool) (width : Nat) (cell : Text) : Text :=
  let missing := blanks (width - cell.columns)
  if rightAligned then missing ++ cell else cell ++ missing

/-- A text in the middle of a width; a blank that is left over stands at the right. -/
def centred (width : Nat) (t : Text) : Text :=
  let missing := width - t.columns
  blanks (missing / 2) ++ t ++ blanks (missing - missing / 2)

namespace Table

/-- The widths of the columns: each is as wide as its widest cell. -/
def widths (t : Table) : List Nat :=
  t.columns.mapIdx fun i column =>
    t.rows.foldl (fun width row => max width (Text.columns (row[i]?.getD []))) column.title.columns

def cellLine (bar : String) (alignments : List Bool) (widths : List Nat) (cells : List Text) :
    Text :=
  let fittedCells := (alignments.zip (widths.zip cells)).map fun (right, width, cell) =>
    " " ++ fitted right width cell ++ " "
  bar ++ Text.join bar fittedCells ++ bar

/-- A ruled line with joints between the columns. -/
def rule (left line joint right : String) (widths : List Nat) : Text :=
  let strokes := widths.map fun width => (List.replicate (width + 2) (Text.ofString line)).flatten
  left ++ Text.join joint strokes ++ right

def lines (t : Table) : List Text :=
  let widths := t.widths
  let header := cellLine "┃" (t.columns.map fun _ => false) widths
  let total := widths.foldl (fun sum width => sum + width + 3) 1
  let titles := (t.columns.zip widths).map fun (column, width) =>
    fitted column.rightAligned width column.title
  [centred total t.title, rule "┏" "━" "┳" "┓" widths, header titles, rule "┡" "━" "╇" "┩" widths] ++
    t.rows.map (cellLine "│" (t.columns.map (·.rightAligned)) widths) ++
    [rule "└" "─" "┴" "┘" widths]

def text (t : Table) : Text := t.lines.flatMap (· ++ ("\n" : Text))

end Table

end DocRepair.Display
