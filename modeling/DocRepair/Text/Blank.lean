import DocRepair.Text.CodePoint
import DocRepair.Text.Ranges

namespace DocRepair

/-- White space, the four separators from U+001C on included. -/
def blankRanges : RangeTable :=
  [(0x9, 0xD), (0x1C, 0x20), (0x85, 0x85), (0xA0, 0xA0), (0x1680, 0x1680), (0x2000, 0x200A),
    (0x2028, 0x2029), (0x202F, 0x202F), (0x205F, 0x205F), (0x3000, 0x3000)]

namespace CodePoint

/-- White space of every script. -/
def isBlank (c : CodePoint) : Bool :=
  blankRanges.holds c.val

def isAsciiBlank (c : CodePoint) : Bool :=
  c.val == 32 || (9 ≤ c.val && c.val ≤ 13)

end CodePoint

namespace Text

/-- The text without the code points of a class at its end. -/
def dropTrailing (p : CodePoint → Bool) (t : Text) : Text :=
  (t.reverse.dropWhile p).reverse

/-- The text without white space at its start. -/
def stripLeft (t : Text) : Text :=
  t.dropWhile CodePoint.isBlank

/-- The text without white space at its end. -/
def stripRight (t : Text) : Text :=
  t.dropTrailing CodePoint.isBlank

/-- The text without white space at its ends. -/
def strip (t : Text) : Text :=
  t.stripLeft.stripRight

/-- The white space at the start of a text. -/
def indent (t : Text) : Text :=
  t.takeWhile CodePoint.isBlank

end Text

end DocRepair
