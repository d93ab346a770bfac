import DocRepair.Docblock.Block

namespace DocRepair.Docblock

/-- A block in a file, by the indices of its first and its last line. -/
structure Location where
  text : Text
  firstLine : Nat
  lastLine : Nat
  deriving DecidableEq, Repr

/-- How far above the given lines, the nearest one first, a block opens: lines between are blank
or begin with a star. -/
def openerAbove? : List Text → Option Nat
  | [] => none
  | line :: above =>
    let s := line.strip
    if s.startsWith opener then some 0
    else if s.isEmpty || s.opensWith '*' then (openerAbove? above).map (· + 1)
    else none

/-- The block made of the lines from one index to another. -/
def Location.ofLines (lines : List Text) (firstLine lastLine : Nat) : Location :=
  ⟨Text.unlines ((lines.take (lastLine + 1)).drop firstLine), firstLine, lastLine⟩

/-- The block that ends on the line above an index. -/
def locateAt? (lines : List Text) (anchor : Nat) : Option Location :=
  if anchor < lines.length then
    match (lines.take anchor).reverse with
    | [] => none
    | last :: above =>
      let s := last.strip
      if !s.endsWith closer then none
      else if s.startsWith opener then some (.ofLines lines (anchor - 1) (anchor - 1))
      else (openerAbove? above).map fun distance =>
        .ofLines lines (anchor - 2 - distance) (anchor - 1)
  else none

/-- The block that ends on the line above an index, which may lie outside the file. -/
def locate? (lines : List Text) : (anchor : Int) → Option Location
  | .ofNat anchor => locateAt? lines anchor
  | .negSucc _ => none

end DocRepair.Docblock
