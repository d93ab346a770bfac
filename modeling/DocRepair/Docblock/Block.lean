import DocRepair.Docblock.Entry
import DocRepair.OrderedMap
import DocRepair.Text.Lines

namespace DocRepair.Docblock

abbrev Annotations := OrderedMap Text (List Entry)

def opener : Text := "/**"

def closer : Text := "*/"

/-- The text without an opening mark at its start and the white space around it. -/
def dropOpener (t : Text) : Text :=
  let s := t.stripLeft
  if s.startsWith opener then Text.stripLeft (s.drop opener.length) else t

/-- The text without a closing mark at its end and the white space around it. -/
def dropCloser (t : Text) : Text :=
  let s := t.stripRight
  if s.endsWith closer then Text.stripRight (s.take (s.length - closer.length)) else t

/-- A line without the white space around it and without a leading star. -/
def dropStar (line : Text) : Text :=
  match line.strip with
  | [] => []
  | c :: rest => if c = '*' then Text.stripLeft rest else c :: rest

/-- The lines of a block without marks and stars. -/
def contentLines (t : Text) : List Text :=
  (dropCloser (dropOpener t)).lines.map dropStar

/-- The longest tag name after its first code point: words with single hyphens between them. -/
def spanTag : Text → Text × Text
  | [] => ([], [])
  | [c] => if c.isWord then ([c], []) else ([], [c])
  | c :: d :: rest =>
    if c.isWord then
      let (tag, after) := spanTag (d :: rest)
      (c :: tag, after)
    else if c = '-' ∧ d.isWord then
      let (tag, after) := spanTag rest
      (c :: d :: tag, after)
    else ([], c :: d :: rest)

def tagLine? : Text → Option (Text × Text)
  | [] => none
  | [_] => none
  | c :: d :: rest =>
    if c = '@' ∧ d.isWord then
      match spanTag (d :: rest) with
      | (tag, []) => some (tag, [])
      | (tag, e :: after) => if e.isBlank then some (tag, Text.stripLeft (e :: after)) else none
    else none

/-- Adds the entry of a content line, if it holds a tag. -/
def Annotations.addLine (annotations : Annotations) (line : Text) : Annotations :=
  match tagLine? line with
  | some (tag, value) => annotations.push tag (Entry.ofValue tag value)
  | none => annotations

/-- The entries of a block: the known tags in order, then the others in order of appearance. -/
def parse (t : Text) : Annotations :=
  (contentLines t).foldl Annotations.addLine (tagOrder.map (·, []))

/-- The text before the first tag, on one line. -/
def description? (t : Text) : Option Text :=
  let before := (contentLines t).takeWhile fun line => !line.opensWith '@'
  match before.filter (!·.isEmpty) with
  | [] => none
  | lines => some (Text.join " " lines)

/-- Whether a block carries a tag, with a given name if one is asked for. -/
def hasTag (t tag : Text) (name : Option Text) : Bool :=
  let entries := (parse t).listOf tag
  match name with
  | none => !entries.isEmpty
  | some _ => entries.any (·.name == name)

/-- A tag with its value, as it is written. -/
def tagText (tag value : Text) : Text :=
  if value.isEmpty then "@" ++ tag else "@" ++ tag ++ " " ++ value

/-- The tags of a mapping in the order of a block: known ones first. -/
def writingOrder (annotations : OrderedMap Text (List Text)) : List Text :=
  tagOrder ++ (annotations.map (·.1)).filter (!tagOrder.contains ·)

/-- The block of a mapping from tags to values, with an optional description. -/
def create (annotations : OrderedMap Text (List Text)) (description : Option Text) : Text :=
  let summary : List Text :=
    match description with
    | some text => [" * " ++ text, " *"]
    | none => []
  let tags := (writingOrder annotations).flatMap fun tag =>
    (annotations.listOf tag).map fun value => " * " ++ tagText tag value
  Text.unlines ([opener] ++ summary ++ tags ++ [(" */" : Text)])

/-- The values of a block by tag, for the tags that have entries. -/
def values (annotations : Annotations) : OrderedMap Text (List Text) :=
  (annotations.filter (!·.2.isEmpty)).map fun (tag, entries) =>
    (tag, entries.map (Entry.toValue tag))

def format (t : Text) : Text :=
  create (values (parse t)) (description? t)

end DocRepair.Docblock
