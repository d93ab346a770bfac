import DocRepair.Text.Search

namespace DocRepair

inductive LineEnding where
  | lf
  | crlf
  deriving DecidableEq, Repr

namespace LineEnding

def text : LineEnding → Text
  | .lf => "\n"
  | .crlf => "\r\n"

/-- One carriage return before a line feed makes the whole content end its lines that way. -/
def detect (content : Text) : LineEnding :=
  if content.holds "\r\n" then .crlf else .lf

def split : LineEnding → Text → List Text
  | .lf, content => content.splitAt '\n'
  | .crlf, content => content.splitAtPair '\r' '\n'

def join (ending : LineEnding) (lines : List Text) : Text :=
  Text.join ending.text lines

end LineEnding

namespace Text

/-- The pieces of a text between line feeds. -/
abbrev lines (t : Text) : List Text :=
  t.splitAt '\n'

/-- The text made of lines with line feeds between them. -/
abbrev unlines (ls : List Text) : Text :=
  join newline ls

/-- Every line end of a text file becomes one line feed. -/
def universalNewlines : Text → Text
  | [] => []
  | [c] => if c = '\r' then ['\n'] else [c]
  | c :: d :: rest =>
    if c = '\r' then
      if d = '\n' then '\n' :: universalNewlines rest
      else '\n' :: universalNewlines (d :: rest)
    else c :: universalNewlines (d :: rest)

/-- The code points at which a line of printed text ends. -/
def isLineBoundary (c : CodePoint) : Bool :=
  (0xA ≤ c.val && c.val ≤ 0xD) || (0x1C ≤ c.val && c.val ≤ 0x1E) || c.val == 0x85 ||
    c.val == 0x2028 || c.val == 0x2029

/-- The lines of a text with their ends, a carriage return and line feed being one end; there is
no empty line after the last end. -/
def keepLines : Text → List Text
  | [] => []
  | [c] => [[c]]
  | c :: d :: rest =>
    if isLineBoundary c then
      if c = '\r' ∧ d = '\n' then [c, d] :: keepLines rest
      else [c] :: keepLines (d :: rest)
    else consFirst c (keepLines (d :: rest))

end Text

end DocRepair
