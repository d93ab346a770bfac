import DocRepair.Text.Digit
import DocRepair.Yaml.Cursor
import DocRepair.Yaml.Fault

/-!
The text of a scalar in each of its forms: plain, between quotes, and as a block of lines.

A single line break inside a scalar that is not kept line by line becomes a space, and of several
line breaks the first is left out.
-/

namespace DocRepair.Yaml

/-- The text for a line break and the line breaks after it. -/
def foldBreaks (first : Text) (others : List Text) : Text :=
  (if first != Text.newline then first else if others.isEmpty then ([' '] : Text) else []) ++ others.flatten

/-! Scalars between quotes -/

/-- The line breaks that come next inside quotes, with blanks around them. A document may not end
there. -/
def quotedBreaks : (fuel : Nat) → Cursor → Except Fault (List Text × Cursor)
  | 0, _ => .error .malformed
  | fuel + 1, c =>
    if c.atDocumentMark then .error .malformed
    else
      let c := c.skipWhile isSpaceOrTab
      match c.lineBreak? with
      | none => .ok ([], c)
      | some (lineBreak, c) => do
        let (others, c) ← quotedBreaks fuel c
        return (lineBreak :: others, c)

/-- The blanks that come next inside quotes. -/
def quotedSpaces (c : Cursor) : Except Fault (Text × Cursor) :=
  let (blanks, c) := c.span isSpaceOrTab
  match c.lineBreak? with
  | some (lineBreak, c) => do
    let (others, c) ← quotedBreaks (c.rest.length + 1) c
    return (foldBreaks lineBreak others, c)
  | none => if c.rest.isEmpty then .error .malformed else .ok (blanks, c)

def escapeLetters : List (Char × Nat) :=
  [('0', 0x0), ('a', 0x7), ('b', 0x8), ('t', 0x9), ('\t', 0x9), ('n', 0xA), ('v', 0xB), ('f', 0xC),
    ('r', 0xD), ('e', 0x1B), (' ', 0x20), ('"', 0x22), ('\\', 0x5C), ('/', 0x2F), ('N', 0x85),
    ('_', 0xA0), ('L', 0x2028), ('P', 0x2029)]

/-- The escapes with hexadecimal digits, and how many of them. -/
def escapeWidths : List (Char × Nat) := [('x', 2), ('u', 4), ('U', 8)]

/-- What stands for a code point in a table. -/
def lookupChar (table : List (Char × Nat)) (c : CodePoint) : Option Nat :=
  (table.find? fun (x, _) => CodePoint.ofChar x == c).map (·.2)

def hexValue? (digits : Text) : Option Nat :=
  digits.foldlM (fun n c => c.hex?.map (n * 16 + ·)) 0

def codePoint (n : Nat) : Except Fault CodePoint :=
  if isLt : n < 0x110000 then .ok ⟨n, isLt⟩
  else if n < 0x80000000 then .error .beyondCodePoints
  else .error .beyondCounting

/-- Reads what follows a backslash. -/
def readEscape (c : Cursor) : Except Fault (Text × Cursor) :=
  match c.peek with
  | none => .error .malformed
  | some x =>
    match lookupChar escapeLetters x with
    | some n => .ok ([.ofNat n], c.next)
    | none =>
      match lookupChar escapeWidths x with
      | some width =>
        let digits := c.next.rest.take width
        match hexValue? digits with
        | some n =>
          if digits.length = width then (codePoint n).map fun found => ([found], c.next.skip width)
          else .error .malformed
        | none => .error .malformed
      | none =>
        match c.lineBreak? with
        | some (_, c) => do
          let (others, c) ← quotedBreaks (c.rest.length + 1) c
          return (others.flatten, c)
        | none => .error .malformed

/-- Reads a scalar after its opening quote. -/
def readQuoted (double : Bool) : (fuel : Nat) → Cursor → Except Fault (Text × Cursor)
  | 0, _ => .error .malformed
  | fuel + 1, c =>
    let quote : CodePoint := if double then '"' else '\''
    match c.peek with
    | none => .error .malformed
    | some x =>
      if x == quote then
        if !double && c.peek 1 == some quote then do
          let (others, c) ← readQuoted double fuel (c.skip 2)
          return (quote :: others, c)
        else .ok ([], c.next)
      else if double && x == '\\' then do
        let (found, c) ← readEscape c.next
        let (others, c) ← readQuoted double fuel c
        return (found ++ others, c)
      else if isSpaceOrTab x || isBreak x then do
        let (found, c) ← quotedSpaces c
        let (others, c) ← readQuoted double fuel c
        return (found ++ others, c)
      else do
        let (others, c) ← readQuoted double fuel c.next
        return (x :: others, c)

/-! Plain scalars -/

/-- How many code points of a plain scalar come next; `inFlow` says whether brackets are open. -/
def plainLength (inFlow : Bool) : Text → Nat
  | [] => 0
  | x :: rest =>
    let isBlank := isSpaceOrTab x || isBreak x
    let endsKey := x == ':' && match rest with
      | [] => true
      | y :: _ => isSpaceOrTab y || isBreak y || (inFlow && y.isOneOf ",[]\x7b\x7d")
    if isBlank || endsKey || (inFlow && x.isOneOf ",?[]\x7b\x7d") then 0
    else plainLength inFlow rest + 1

/-- The line breaks after a line of a plain scalar; nothing if a document ends there. -/
def plainBreaks : (fuel : Nat) → Cursor → Option (List Text) × Cursor
  | 0, c => (some [], c)
  | fuel + 1, c =>
    let c := c.skipSpaces
    match c.lineBreak? with
    | none => (some [], c)
    | some (lineBreak, c) =>
      if c.atDocumentMark then (none, c)
      else
        let (others, c) := plainBreaks fuel c
        (others.map (lineBreak :: ·), c)

/-- What follows a part of a plain scalar: the text for it, the place after it and whether a line
has ended. Nothing follows at the end of the scalar. -/
def plainSpaces (c : Cursor) : Option Text × Cursor × Bool :=
  let (spaces, c) := c.span (· == ' ')
  match c.lineBreak? with
  | none => (if spaces.isEmpty then none else some spaces, c, false)
  | some (lineBreak, c) =>
    if c.atDocumentMark then (none, c, true)
    else
      let (others, c) := plainBreaks (c.rest.length + 1) c
      (others.map (foldBreaks lineBreak), c, true)

structure PlainScalar where
  text : Text
  after : Cursor
  /-- Whether its last part is followed by a line break. -/
  lineEnded : Bool

/-- Reads a plain scalar whose lines stand at a column or beyond; `gap` stands before the next
part. -/
def readPlain (inFlow : Bool) (column : Int) : (fuel : Nat) → (gap : Text) → (lineEnded : Bool) →
    Cursor → PlainScalar
  | 0, _, lineEnded, c => ⟨[], c, lineEnded⟩
  | fuel + 1, gap, lineEnded, c =>
    let length := if c.at? '#' then 0 else plainLength inFlow c.rest
    if length = 0 then ⟨[], c, lineEnded⟩
    else
      let part := gap ++ c.rest.take length
      match plainSpaces (c.skip length) with
      | (none, c, ended) => ⟨part, c, ended⟩
      | (some next, c, ended) =>
        if c.at? '#' || (!inFlow && (c.column : Int) < column) then ⟨part, c, ended⟩
        else
          let others := readPlain inFlow column fuel next ended c
          ⟨part ++ others.text, others.after, others.lineEnded⟩

/-! Blocks of lines -/

/-- Which line breaks at the end of a block are kept. -/
inductive Chomping where
  | strip
  | clip
  | keep
  deriving DecidableEq, Repr

def blockDigit? (c : Cursor) : Option Nat :=
  c.peek.bind fun x => if x.isAsciiDigit then some (x.val - 48) else none

/-- The sign that says which line breaks are kept. -/
def chompingSign? (c : Cursor) : Option Chomping :=
  if c.at? '+' then some .keep else if c.at? '-' then some .strip else none

/-- The header of a block: a sign and a digit in either order, then nothing but a comment. -/
def blockHeader (c : Cursor) : Except Fault (Chomping × Option Nat × Cursor) :=
  let (chomping, digit, c) := match chompingSign? c with
    | some sign =>
      match blockDigit? c.next with
      | some d => (sign, some d, c.skip 2)
      | none => (sign, none, c.next)
    | none =>
      match blockDigit? c with
      | some d =>
        match chompingSign? c.next with
        | some sign => (sign, some d, c.skip 2)
        | none => (.clip, some d, c.next)
      | none => (.clip, none, c)
  if digit == some 0 || !c.atSpaceOrLineEnd then .error .malformed
  else
    let c := c.skipSpaces.skipComment
    match c.lineBreak? with
    | some (_, c) => .ok (chomping, digit, c)
    | none => if c.rest.isEmpty then .ok (chomping, digit, c) else .error .malformed

/-- Spaces of a line below a column. -/
def skipIndent (column : Nat) (c : Cursor) : Cursor :=
  c.skip (min (column - c.column) (c.rest.takeWhile fun x : CodePoint => x == ' ').length)

/-- The line breaks before the next line of a block at a column. -/
def blockBreaks (column : Nat) : (fuel : Nat) → Cursor → List Text × Cursor
  | 0, c => ([], c)
  | fuel + 1, c =>
    let c := skipIndent column c
    match c.lineBreak? with
    | none => ([], c)
    | some (lineBreak, c) =>
      let (others, c) := blockBreaks column fuel c
      (lineBreak :: others, c)

/-- The line breaks before the first line of a block, and the widest indentation among them. -/
def blockStart : (fuel : Nat) → (widest : Nat) → Cursor → List Text × Nat × Cursor
  | 0, widest, c => ([], widest, c)
  | fuel + 1, widest, c =>
    let c := c.skipSpaces
    let widest := max widest c.column
    match c.lineBreak? with
    | none => ([], widest, c)
    | some (lineBreak, c) =>
      let (others, widest, c) := blockStart fuel widest c
      (lineBreak :: others, widest, c)

/-- The lines of a block at a column, after line breaks that have been read: the text without the
last line breaks, the line break of the last line, those after it, and the place after them. -/
def blockLines (folded : Bool) (column : Nat) : (fuel : Nat) → (breaks : List Text) → Cursor →
    Text × Text × List Text × Cursor
  | 0, breaks, c => ([], [], breaks, c)
  | fuel + 1, breaks, c =>
    if c.column = column && !c.rest.isEmpty then
      let startsFull := !c.endsOr isSpaceOrTab
      let (line, c) := c.span (!isBreak ·)
      let (lineBreak, c) := (c.lineBreak?).getD ([], c)
      let (others, c) := blockBreaks column (c.rest.length + 1) c
      let text := breaks.flatten ++ line
      if c.column = column && !c.rest.isEmpty then
        let joins := folded && lineBreak == Text.newline && startsFull && !c.endsOr isSpaceOrTab
        let gap : Text := if joins then (if others.isEmpty then [' '] else []) else lineBreak
        let (following, lastBreak, lastBreaks, c) := blockLines folded column fuel others c
        (text ++ gap ++ following, lastBreak, lastBreaks, c)
      else (text, lineBreak, others, c)
    else ([], [], breaks, c)

/-- Reads a block after its sign; `indent` is the column of the collection around it. -/
def readBlock (folded : Bool) (indent : Int) (c : Cursor) : Except Fault (Text × Cursor) := do
  let (chomping, digit, c) ← blockHeader c
  let least := (max (indent + 1) 1).toNat
  let fuel := c.rest.length + 1
  let (column, breaks, c) := match digit with
    | some d =>
      let column := least + d - 1
      let (breaks, c) := blockBreaks column fuel c
      (column, breaks, c)
    | none =>
      let (breaks, widest, c) := blockStart fuel 0 c
      (max least widest, breaks, c)
  let (text, lastBreak, lastBreaks, c) := blockLines folded column fuel breaks c
  return match chomping with
    | .strip => (text, c)
    | .clip => (text ++ lastBreak, c)
    | .keep => (text ++ lastBreak ++ lastBreaks.flatten, c)

end DocRepair.Yaml
