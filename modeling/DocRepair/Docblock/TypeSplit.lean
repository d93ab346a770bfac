import DocRepair.Text.Blank

namespace DocRepair.Docblock

def opensBracket (c : CodePoint) : Bool :=
  c == '<' || c == '\x7b' || c == '(' || c == '['

/-- The brackets that close them, of any kind. -/
def closesBracket (c : CodePoint) : Bool :=
  c == '>' || c == '\x7d' || c == ')' || c == ']'

/-- The result of a scan: the type, what is left, and the count of brackets that stay open. -/
structure TypeScan where
  type : Text
  rest : Text
  depth : Nat
  deriving DecidableEq, Repr

/-- Puts a code point in front of the type. -/
def TypeScan.cons (c : CodePoint) (s : TypeScan) : TypeScan :=
  { s with type := c :: s.type }

/-- Scans a type. `depth` brackets are open, and `afterColon` says whether the last code point that
is not white space is a colon. -/
def scanType (depth : Nat) (afterColon : Bool) : Text → TypeScan
  | [] => ⟨[], [], depth⟩
  | c :: rest =>
    if opensBracket c then (scanType (depth + 1) false rest).cons c
    else if closesBracket c && depth != 0 then (scanType (depth - 1) false rest).cons c
    else if c.isBlank then
      if depth == 0 && !afterColon then ⟨[], c :: rest, 0⟩
      else (scanType depth afterColon rest).cons c
    else (scanType depth (c == ':') rest).cons c

/-- The leading type of a value and the rest, stripped. There is none if the value is empty, begins
with a variable, or leaves a bracket open. -/
def splitType? (value : Text) : Option (Text × Text) :=
  let scan := scanType 0 false value.strip
  if scan.depth != 0 then none
  else if scan.type.isEmpty || scan.type.head? == some '$' then none
  else some (scan.type, scan.rest.strip)

end DocRepair.Docblock
