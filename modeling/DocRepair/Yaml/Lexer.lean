import DocRepair.Text.Utf8
import DocRepair.Yaml.ScalarText
import DocRepair.Yaml.Token

/-!
The tokens of a document.

A key need not be marked: when a colon follows something that can be a key, the mark for the key is
put in front of it afterwards. Such a key stands on one line and is not too long.
-/

namespace DocRepair.Yaml

/-- Something that can still turn out to be a key. -/
structure PossibleKey where
  /-- How many tokens stand before it. -/
  position : Nat
  /-- Whether nothing else can stand there. -/
  required : Bool
  index : Nat
  line : Nat
  column : Nat
  deriving DecidableEq, Repr

structure LexState where
  cursor : Cursor
  tokens : Array Token := #[]
  /-- How many brackets are open. -/
  depth : Nat := 0
  /-- The column of the block collection around, and those of the ones around it. -/
  indent : Int := -1
  outerIndents : List Int := []
  /-- Whether a key may begin here. -/
  keyAllowed : Bool := true
  /-- What can be a key, by the count of open brackets around it. -/
  possibleKeys : List (Nat × PossibleKey) := []
  deriving Repr

/-- The greatest length of a key that is not marked. -/
def longestKey : Nat := 1024

/-- The greatest width of an indentation that closes all blocks. -/
def outermost : Int := -1

namespace LexState

/-- Whether brackets are open. -/
def inFlow (s : LexState) : Bool := s.depth != 0

/-- The state with one more token. -/
def push (s : LexState) (t : Token) : LexState := { s with tokens := s.tokens.push t }

/-- The state some code points ahead. -/
def skip (s : LexState) (n : Nat) : LexState := { s with cursor := s.cursor.skip n }

/-- Forgets keys that can no longer be one. -/
def dropStaleKeys (s : LexState) : Except Fault LexState :=
  let isStale := fun (k : PossibleKey) =>
    k.line != s.cursor.line || longestKey < s.cursor.index - k.index
  if s.possibleKeys.any fun (_, k) => isStale k && k.required then .error .malformed
  else .ok { s with possibleKeys := s.possibleKeys.filter fun (_, k) => !isStale k }

/-- What can be a key between the innermost brackets. -/
def possibleKey? (s : LexState) : Option PossibleKey := s.possibleKeys.lookup s.depth

/-- Forgets what could be a key between the innermost brackets, which may not be required. -/
def dropKey (s : LexState) : Except Fault LexState :=
  match s.possibleKey? with
  | none => .ok s
  | some k =>
    if k.required then .error .malformed
    else .ok { s with possibleKeys := s.possibleKeys.filter fun (depth, _) => depth != s.depth }

/-- Notes that what comes next can be a key. -/
def noteKey (s : LexState) : Except Fault LexState :=
  if s.keyAllowed then do
    let s ← s.dropKey
    let k : PossibleKey :=
      ⟨s.tokens.size, !s.inFlow && s.indent == s.cursor.column, s.cursor.index, s.cursor.line,
        s.cursor.column⟩
    return { s with possibleKeys := (s.depth, k) :: s.possibleKeys }
  else .ok s

/-- Closes the blocks that begin right of a column. -/
def unwind (s : LexState) (column : Int) : LexState :=
  if s.inFlow then s
  else
    let closed := (s.indent :: s.outerIndents).takeWhile (column < ·)
    match (s.indent :: s.outerIndents).drop closed.length with
    | [] => s
    | indent :: outerIndents =>
      { s with
        indent
        outerIndents
        tokens := closed.foldl (fun tokens _ => tokens.push .blockEnd) s.tokens }

/-- Opens a block at a column, unless one is open there. -/
def opensBlock (s : LexState) (column : Nat) : Bool := s.indent < column

def openBlock (s : LexState) (column : Nat) : LexState :=
  { s with indent := column, outerIndents := s.indent :: s.outerIndents }

/-- Passes over spaces, comments and line breaks. -/
def skipBlanks : (fuel : Nat) → LexState → LexState
  | 0, s => s
  | fuel + 1, s =>
    let cursor := s.cursor.skipSpaces.skipComment
    match cursor.lineBreak? with
    | none => { s with cursor }
    | some (_, cursor) => skipBlanks fuel { s with cursor, keyAllowed := s.keyAllowed || !s.inFlow }

/-- Ends all blocks at a mark between documents. -/
def leaveBlocks (s : LexState) : Except Fault LexState := do
  let s ← (s.unwind outermost).dropKey
  return { s with keyAllowed := false }

/-- Puts a token before those from a position on. -/
def insertToken (s : LexState) (position : Nat) (t : Token) : LexState :=
  { s with
    tokens := (s.tokens.extract 0 position).push t ++ s.tokens.extract position s.tokens.size }

end LexState

/-! Names and tags -/

/-- Reads a word, which may not be empty. -/
def readWord (c : Cursor) : Except Fault (Text × Cursor) :=
  let (word, c) := c.span isWordChar
  if word.isEmpty then .error .malformed else .ok (word, c)

/-- The name of an anchor or alias, after its sign. -/
def readAnchorName (c : Cursor) : Except Fault (Text × Cursor) := do
  let (word, c) ← readWord c
  let ends := c.endsOr fun x => isSpaceOrTab x || isBreak x || x.isOneOf "?:,]\x7d%@\x60"
  if ends then return (word, c) else throw .malformed

def isTagChar (c : CodePoint) : Bool :=
  isWordChar c || c.isOneOf ";/?:@&=+$,.!~*'()[]%"

/-- The bytes that escapes with hexadecimal digits stand for. -/
def readTagBytes : (fuel : Nat) → Cursor → Except Fault (List UInt8 × Cursor)
  | 0, _ => .error .malformed
  | fuel + 1, c =>
    if c.at? '%' then
      match c.rest.drop 1 with
      | a :: b :: _ =>
        match a.hex?, b.hex? with
        | some high, some low => do
          let (others, c) ← readTagBytes fuel (c.skip 3)
          return (UInt8.ofNat (high * 16 + low) :: others, c)
        | _, _ => .error .malformed
      | _ => .error .malformed
    else .ok ([], c)

/-- Reads the code points of a tag. -/
def readTagChars : (fuel : Nat) → Cursor → Except Fault (Text × Cursor)
  | 0, _ => .error .malformed
  | fuel + 1, c =>
    match c.peek with
    | none => .ok ([], c)
    | some x =>
      if x == '%' then do
        let (bytes, c) ← readTagBytes (c.rest.length + 1) c
        match Utf8.decodeStrict bytes with
        | .error _ => throw .malformed
        | .ok found =>
          let (others, c) ← readTagChars fuel c
          return (found ++ others, c)
      else if isTagChar x then do
        let (others, c) ← readTagChars fuel c.next
        return (x :: others, c)
      else .ok ([], c)

/-- Reads a tag without its handle, which may not be empty. -/
def readTagSuffix (c : Cursor) : Except Fault (Text × Cursor) :=
  if c.peek.any isTagChar then readTagChars (c.rest.length + 1) c else .error .malformed

/-- Reads a handle: an exclamation mark, or a word between two of them. -/
def readTagHandle (c : Cursor) : Except Fault (Text × Cursor) :=
  if !c.at? '!' then .error .malformed
  else if c.peek 1 == some ' ' then .ok ("!", c.next)
  else
    let (word, after) := c.next.span isWordChar
    if after.at? '!' then .ok ("!" ++ word ++ "!", after.next) else .error .malformed

/-- Whether a second exclamation mark stands in a tag. -/
def hasHandle (c : Cursor) : Bool :=
  (c.next.rest.takeWhile fun x : CodePoint => !(x == ' ' || isBreak x)).contains '!'

def readTag (c : Cursor) : Except Fault (Token × Cursor) := do
  let (token, c) ←
    if c.peek 1 == some '<' then do
      let (suffix, c) ← readTagSuffix (c.skip 2)
      if c.at? '>' then pure (Token.tag none suffix, c.next) else throw .malformed
    else if c.blankAt 1 then pure (Token.tag none "!", c.next)
    else do
      let (handle, c) ← if hasHandle c then readTagHandle c else pure (("!" : Text), c.next)
      let (suffix, c) ← readTagSuffix c
      pure (Token.tag (some handle) suffix, c)
  if c.atSpaceOrLineEnd then return (token, c) else throw .malformed

/-! Directives -/

def readNumber (c : Cursor) : Except Fault (Nat × Cursor) :=
  let (digits, c) := c.span CodePoint.isAsciiDigit
  if digits.isEmpty then .error .malformed
  else .ok (digits.foldl (fun n d => n * 10 + (d.val - 48)) 0, c)

/-- Reads the version that a document is written for. -/
def readVersion (c : Cursor) : Except Fault (Directive × Cursor) := do
  let (major, c) ← readNumber c.skipSpaces
  if !c.at? '.' then throw .malformed
  let (_, c) ← readNumber c.next
  if c.atSpaceOrLineEnd then return (.version major, c) else throw .malformed

def readHandle (c : Cursor) : Except Fault (Directive × Cursor) := do
  let (handle, c) ← readTagHandle c.skipSpaces
  if !c.at? ' ' then throw .malformed
  let (start, c) ← readTagSuffix c.skipSpaces
  if c.atSpaceOrLineEnd then return (.handle handle start, c) else throw .malformed

/-- Reads a directive after its sign, up to the end of its line. -/
def readDirective (c : Cursor) : Except Fault (Directive × Cursor) := do
  let (name, c) ← readWord c
  if !c.atSpaceOrLineEnd then throw .malformed
  let (directive, c) ←
    if name == ("YAML" : Text) then readVersion c
    else if name == ("TAG" : Text) then readHandle c
    else pure (.reserved, c.skipWhile (!isBreak ·))
  let c := c.skipSpaces.skipComment
  if !c.atLineEnd then throw .malformed
  return (directive, ((c.lineBreak?).map (·.2)).getD c)

/-! Tokens -/

namespace LexState

/-- A token of one sign that opens brackets. -/
def openFlow (s : LexState) (t : Token) : Except Fault LexState := do
  let s ← s.noteKey
  return { (s.skip 1).push t with depth := s.depth + 1, keyAllowed := true }

/-- A token of one sign that closes brackets. -/
def closeFlow (s : LexState) (t : Token) : Except Fault LexState := do
  let s ← s.dropKey
  if s.depth = 0 then throw .malformed
  return { (s.skip 1).push t with depth := s.depth - 1, keyAllowed := false }

/-- A comma between brackets. -/
def flowEntry (s : LexState) : Except Fault LexState := do
  let s ← s.dropKey
  return { (s.skip 1).push .flowEntry with keyAllowed := true }

def beginBlock (s : LexState) (start : Token) : Except Fault LexState :=
  if s.inFlow then .ok s
  else if !s.keyAllowed then .error .malformed
  else if s.opensBlock s.cursor.column then .ok ((s.push start).openBlock s.cursor.column)
  else .ok s

/-- A dash before an entry. -/
def blockEntry (s : LexState) : Except Fault LexState := do
  let s ← (← s.beginBlock .blockSequenceStart).dropKey
  return { (s.skip 1).push .blockEntry with keyAllowed := true }

/-- A question mark before a key. -/
def markedKey (s : LexState) : Except Fault LexState := do
  let s ← (← s.beginBlock .blockMappingStart).dropKey
  return { (s.skip 1).push .key with keyAllowed := !s.inFlow }

/-- A colon before a value. -/
def value (s : LexState) : Except Fault LexState :=
  match s.possibleKey? with
  | some k =>
    let s := { s with possibleKeys := s.possibleKeys.filter fun (depth, _) => depth != s.depth }
    let s := s.insertToken k.position .key
    let s := if !s.inFlow && s.opensBlock k.column then
        (s.insertToken k.position .blockMappingStart).openBlock k.column
      else s
    .ok { (s.skip 1).push .value with keyAllowed := false }
  | none => do
    let s ← (← s.beginBlock .blockMappingStart).dropKey
    return { (s.skip 1).push .value with keyAllowed := !s.inFlow }

/-- A token that can be a key or part of one. -/
def keyLike (s : LexState) (read : Cursor → Except Fault (Token × Cursor)) :
    Except Fault LexState := do
  let s ← s.noteKey
  let (token, cursor) ← read s.cursor
  return { s.push token with cursor, keyAllowed := false }

def quoted (s : LexState) (double : Bool) : Except Fault LexState :=
  s.keyLike fun c => do
    let (text, c) ← readQuoted double (c.rest.length + 1) c.next
    return (.scalar text false, c)

def plain (s : LexState) : Except Fault LexState := do
  let s ← s.noteKey
  let found := readPlain s.inFlow (s.indent + 1) (s.cursor.rest.length + 1) [] false s.cursor
  return { s.push (.scalar found.text true) with cursor := found.after, keyAllowed := found.lineEnded }

def block (s : LexState) (folded : Bool) : Except Fault LexState := do
  let s ← s.dropKey
  let (text, cursor) ← readBlock folded s.indent s.cursor.next
  return { s.push (.scalar text false) with cursor, keyAllowed := true }

/-- Whether a plain scalar can begin with what comes next. -/
def atPlain (s : LexState) : Bool :=
  match s.cursor.peek with
  | none => false
  | some x =>
    !(isSpaceOrTab x || isBreak x || x.isOneOf "-?:,[]\x7b\x7d#&*!|>'\"%@\x60") ||
      (!s.cursor.blankAt 1 && (x == '-' || (!s.inFlow && (x == '?' || x == ':'))))

/-- Reads the next token, which begins with a given code point. -/
def step (s : LexState) (x : CodePoint) : Except Fault LexState :=
  let c := s.cursor
  let atStart := c.column = 0
  if x == '%' && atStart then do
    let s ← s.leaveBlocks
    let (directive, cursor) ← readDirective c.next
    return { s.push (.directive directive) with cursor }
  else if atStart && c.atDocumentMark then do
    let s ← s.leaveBlocks
    return (s.skip 3).push (if x == '-' then .documentStart else .documentEnd)
  else if x == '[' then s.openFlow .flowSequenceStart
  else if x == '\x7b' then s.openFlow .flowMappingStart
  else if x == ']' then s.closeFlow .flowSequenceEnd
  else if x == '\x7d' then s.closeFlow .flowMappingEnd
  else if x == ',' then s.flowEntry
  else if x == '-' && c.blankAt 1 then s.blockEntry
  else if x == '?' && (s.inFlow || c.blankAt 1) then s.markedKey
  else if x == ':' && (s.inFlow || c.blankAt 1) then s.value
  else if x == '*' then s.keyLike fun c => (readAnchorName c.next).map fun (n, c) => (.alias n, c)
  else if x == '&' then s.keyLike fun c => (readAnchorName c.next).map fun (n, c) => (.anchor n, c)
  else if x == '!' then s.keyLike readTag
  else if x == '|' && !s.inFlow then s.block false
  else if x == '>' && !s.inFlow then s.block true
  else if x == '\'' then s.quoted false
  else if x == '"' then s.quoted true
  else if s.atPlain then s.plain
  else .error .malformed

/-- Reads all tokens; every token takes at least one code point. -/
def run : (fuel : Nat) → LexState → Except Fault LexState
  | 0, _ => .error .malformed
  | fuel + 1, s => do
    let s ← (skipBlanks (s.cursor.rest.length + 1) s).dropStaleKeys
    let s := s.unwind s.cursor.column
    match s.cursor.peek with
    | none => s.leaveBlocks
    | some x => run fuel (← s.step x)

end LexState

/-- Whether a code point may stand in a document. -/
def isPrintable (c : CodePoint) : Bool :=
  c.val == 0x9 || c.val == 0xA || c.val == 0xD || (0x20 ≤ c.val && c.val ≤ 0x7E) ||
    c.val == 0x85 || (0xA0 ≤ c.val && c.val ≤ 0xD7FF) || (0xE000 ≤ c.val && c.val ≤ 0xFFFD) ||
    0x10000 ≤ c.val

def tokens (document : Text) : Except Fault (List Token) :=
  if !document.all isPrintable then .error .malformed
  else
    let start : Cursor := { rest := document }
    let cursor := if start.at? Cursor.byteOrderMark then start.next else start
    (LexState.run (document.length + 1) { cursor }).map (·.tokens.toList)

end DocRepair.Yaml
