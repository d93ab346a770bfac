import DocRepair.Docblock.Block

namespace DocRepair.Docblock

/-- The lines before the last line with a closing mark, that line, and the lines after it. -/
def splitAtCloser? : List Text → Option (List Text × Text × List Text)
  | [] => none
  | line :: rest =>
    match splitAtCloser? rest with
    | some (before, closing, after) => some (line :: before, closing, after)
    | none => if line.holds closer then some ([], line, rest) else none

/-- The lines that take the place of a closing line to which a tag is added. A closing mark that
shares its line with other text gets a line of its own. -/
def closeWith (closing tagLine : Text) : List Text :=
  let indent := closing.indent
  if closing.strip = closer then [indent ++ "* " ++ tagLine, closing]
  else
    let body := Text.stripRight (((closing.cutLast? closer).map (·.1)).getD [])
    if body.stripLeft.startsWith opener then
      let content := Text.strip (body.stripLeft.drop opener.length)
      [indent ++ opener] ++ (if content.isEmpty then [] else [indent ++ " * " ++ content]) ++
        [indent ++ " * " ++ tagLine, indent ++ " */"]
    else
      (if body.strip.isEmpty then [] else [body]) ++
        [indent ++ "* " ++ tagLine, indent ++ "*/"]

def single (tagLine : Text) : Text :=
  "/**\n * " ++ tagLine ++ "\n */"

/-- Adds a tag to a block; a text without a block becomes the block of that tag, and a block
without an end stays as it is. -/
def addTag (t tag value : Text) : Text :=
  let tagLine := tagText tag value.strip
  if t.holds opener then
    match splitAtCloser? t.lines with
    | none => t
    | some (before, closing, after) => Text.unlines (before ++ closeWith closing tagLine ++ after)
  else single tagLine

end DocRepair.Docblock
