import DocRepair.Text.Columns
import DocRepair.Text.Search

namespace DocRepair.Display

/-- Controls that are left out: bell, backspace, vertical tab, form feed and carriage return. -/
def isDropped (c : CodePoint) : Bool :=
  c.val == 7 || c.val == 8 || c.val == 11 || c.val == 12 || c.val == 13

def tabWidth : Nat := 8

/-- A text with blanks up to the next stop in place of tabs, from a column on. -/
def expandTabs : (column : Nat) → Text → Text
  | _, [] => []
  | column, c :: rest =>
    if c == '\n' then c :: expandTabs 0 rest
    else if c == '\t' then
      let blanks := tabWidth - column % tabWidth
      List.replicate blanks (' ' : CodePoint) ++ expandTabs (column + blanks) rest
    else c :: expandTabs (column + c.columns) rest

def forTerminal (t : Text) : Text :=
  expandTabs 0 (t.filter (!isDropped ·))

end DocRepair.Display
