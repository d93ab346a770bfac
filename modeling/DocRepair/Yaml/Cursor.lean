import DocRepair.Text.Search

namespace DocRepair.Yaml

/-- The code points that end a line. -/
def isBreak (c : CodePoint) : Bool :=
  c.val == 0xA || c.val == 0xD || c.val == 0x85 || c.val == 0x2028 || c.val == 0x2029

/-- Blanks inside a line. -/
def isSpaceOrTab (c : CodePoint) : Bool := c == ' ' || c == '\t'

/-- Code points that words of the format are made of. -/
def isWordChar (c : CodePoint) : Bool :=
  c.inRange '0' '9' || c.inRange 'A' 'Z' || c.inRange 'a' 'z' || c == '-' || c == '_'

structure Cursor where
  rest : Text
  index : Nat := 0
  line : Nat := 0
  column : Nat := 0
  deriving DecidableEq, Repr

namespace Cursor

/-- The mark that may stand at the start of a document and takes no column. -/
def byteOrderMark : CodePoint := .ofNat 0xFEFF

/-- The code point some places ahead. -/
def peek (c : Cursor) (ahead : Nat := 0) : Option CodePoint := c.rest[ahead]?

/-- Whether a given code point comes next. -/
def at? (c : Cursor) (x : CodePoint) : Bool := c.peek == some x

/-- Whether the code point some places ahead is of a class; the end of the document is of every
class. -/
def endsOr (c : Cursor) (p : CodePoint → Bool) (ahead : Nat := 0) : Bool :=
  match c.peek ahead with
  | none => true
  | some x => p x

/-- Whether a blank, a line break or the end stands some places ahead. -/
def blankAt (c : Cursor) (ahead : Nat) : Bool :=
  c.endsOr (fun x => isSpaceOrTab x || isBreak x) ahead

def atLineEnd (c : Cursor) : Bool := c.endsOr isBreak

/-- Whether a space, a line break or the end comes next. -/
def atSpaceOrLineEnd (c : Cursor) : Bool := c.endsOr fun x => x == ' ' || isBreak x

/-- The place after the next code point. -/
def next (c : Cursor) : Cursor :=
  match c.rest with
  | [] => c
  | x :: rest =>
    if isBreak x && !(x == '\r' && Text.opensWith rest '\n') then ⟨rest, c.index + 1, c.line + 1, 0⟩
    else if x == byteOrderMark then ⟨rest, c.index + 1, c.line, c.column⟩
    else ⟨rest, c.index + 1, c.line, c.column + 1⟩

/-- The place some code points ahead. -/
def skip (c : Cursor) : Nat → Cursor
  | 0 => c
  | n + 1 => c.next.skip n

/-- The code points of a class that come next, and the place after them. -/
def span (c : Cursor) (p : CodePoint → Bool) : Text × Cursor :=
  let found := c.rest.takeWhile p
  (found, c.skip found.length)

/-- The place after the code points of a class that come next. -/
def skipWhile (c : Cursor) (p : CodePoint → Bool) : Cursor := (c.span p).2

/-- The place after spaces. -/
def skipSpaces (c : Cursor) : Cursor := c.skipWhile (· == ' ')

/-- The place before the end of the line, if a comment comes next. -/
def skipComment (c : Cursor) : Cursor :=
  if c.at? '#' then c.skipWhile (!isBreak ·) else c

/-- The line break that comes next: all but the two separators count as a line feed. -/
def lineBreak? (c : Cursor) : Option (Text × Cursor) :=
  match c.rest with
  | [] => none
  | x :: rest =>
    if x == '\r' && Text.opensWith rest '\n' then some (Text.newline, c.skip 2)
    else if x.val == 0x2028 || x.val == 0x2029 then some ([x], c.next)
    else if isBreak x then some (Text.newline, c.next)
    else none

/-- Whether a mark for the start or the end of a document comes next. -/
def atDocumentMark (c : Cursor) : Bool :=
  (c.rest.startsWith "---" || c.rest.startsWith "...") && c.blankAt 3

end Cursor

end DocRepair.Yaml
