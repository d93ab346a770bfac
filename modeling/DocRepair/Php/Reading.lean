import DocRepair.Php.Lexer
import DocRepair.Php.Node

namespace DocRepair.Php

/-- What is left to read, and the end of what has been read. -/
structure ReaderState where
  tokens : List Token
  stop : Nat
  lastLine : Nat

/-- A reader gives a value or refuses the source. -/
abbrev Reader := StateT ReaderState Option

namespace Reader

/-- Tokens without text sections at their start. -/
def skipSections : List Token → List Token
  | [] => []
  | t :: rest => if t.kind == .textSection then skipSections rest else t :: rest

/-- The kind of the next token. -/
def peek : Reader (Option TokenKind) := do
  return (skipSections (← get).tokens).head?.map (·.kind)

/-- The kind of the token after the next one. -/
def peekSecond : Reader (Option TokenKind) := do
  return (skipSections ((skipSections (← get).tokens).drop 1)).head?.map (·.kind)

def peekThird : Reader (Option TokenKind) := do
  let second := skipSections ((skipSections (← get).tokens).drop 1)
  return (skipSections (second.drop 1)).head?.map (·.kind)

def next : Reader Token := do
  match skipSections (← get).tokens with
  | [] => failure
  | t :: rest =>
    set (ReaderState.mk rest t.stop t.lastLine)
    return t

/-- How many tokens are left: a bound for loops that read one each round. -/
def remaining : Reader Nat := do
  return (← get).tokens.length + 1

/-- Whether a sign comes next. -/
def atSign (s : String) : Reader Bool := do
  return (← peek) == some (.sign s)

/-- Reads a sign if it comes next. -/
def accept (s : String) : Reader Bool := do
  if ← atSign s then
    let _ ← next
    return true
  else return false

/-- Reads a sign that has to come next. -/
def expect (s : String) : Reader Unit := do
  if !(← accept s) then failure

/-- A word in lower case, if a token is a name. -/
def wordOf : Option TokenKind → Option Text
  | some (.name t) => some (t.map fun c => if c.inRange 'A' 'Z' then .ofNat (c.val + 32) else c)
  | _ => none

/-- The next word in lower case, if a name comes next. -/
def peekWord : Reader (Option Text) := do
  return wordOf (← peek)

/-- Whether a word comes next; case does not matter. -/
def atWord (w : Text) : Reader Bool := do
  return (← peekWord) == some w

/-- Whether one of several words comes next. -/
def atAnyWord (ws : List Text) : Reader Bool := do
  return (← peekWord).any ws.contains

def acceptWord (w : Text) : Reader Bool := do
  if ← atWord w then
    let _ ← next
    return true
  else return false

def expectWord (w : Text) : Reader Unit := do
  if !(← acceptWord w) then failure

/-- Whether a name without backslashes comes next. -/
def atName : Reader Bool := do
  match ← peek with
  | some (.name t) => return !t.contains '\\'
  | _ => return false

/-- The start of a node: an offset and a line. -/
structure Start where
  offset : Nat
  line : Nat

/-- The place of the next token, or else of the end of what has been read. -/
def here : Reader Start := do
  let s ← get
  return match skipSections s.tokens with
    | t :: _ => ⟨t.start, t.firstLine⟩
    | [] => ⟨s.stop, s.lastLine⟩

/-- Makes a node that begins at an earlier place and ends with what a reader reads. -/
def nodeAt (start : Start) (kind : NodeKind) (children : Reader (List Node)) : Reader Node := do
  let inside ← children
  let s ← get
  return .mk kind .plain ⟨start.offset, s.stop, start.line, s.lastLine⟩ inside

def node (kind : NodeKind) (children : Reader (List Node)) : Reader Node := do
  nodeAt (← here) kind children

def nodeFrom (kind : NodeKind) (first : Node) (more : Reader (List Node)) : Reader Node :=
  nodeAt ⟨first.span.start, first.span.firstLine⟩ kind more

/-- Makes a node of a single token. -/
def leaf (kind : NodeKind) : Reader Node :=
  node kind do
    let _ ← next
    return []

/-- Reads a name without backslashes. -/
def plainName : Reader Node := do
  if ← atName then leaf .other else failure

/-- Reads a name, qualified or not. -/
def qualifiedName : Reader Node := do
  match ← peek with
  | some (.name _) => leaf .other
  | _ => failure

def plainVariable : Reader Node := do
  if (← peek) == some .variable then leaf .variable else failure

/-- Ends a statement: a semicolon, or a text section that stays to be read. -/
def semicolon : Reader Unit := do
  match (← get).tokens with
  | t :: _ => if t.kind == .textSection then return () else expect ";"
  | [] => failure

def atStatementEnd : Reader Bool := do
  match (← get).tokens with
  | t :: _ => return t.kind == .textSection || t.kind == .sign ";"
  | [] => return true

/-- Reads items as long as there are any, at most so many. -/
def manyUntil {α : Type} (stop : Reader Bool) (item : Reader α) : Nat → Reader (List α)
  | 0 => return []
  | n + 1 => do
    if ← stop then return []
    else
      let first ← item
      return first :: (← manyUntil stop item n)

def readUntil {α : Type} (stop : Reader Bool) (item : Reader α) : Reader (List α) := do
  manyUntil stop item (← remaining)

/-- Reads items with commas between them, at most so many. -/
def commaSeparated {α : Type} (item : Reader α) : Nat → Reader (List α)
  | 0 => return []
  | n + 1 => do
    let first ← item
    if ← accept "," then return first :: (← commaSeparated item n)
    else return [first]

/-- Reads at least one item, with commas between items. -/
def sepBy1 {α : Type} (item : Reader α) : Reader (List α) := do
  commaSeparated item (← remaining)

/-- Reads items with commas between them and perhaps after them, up to a closing sign. -/
def listItems {α : Type} (close : String) (item : Reader α) : Nat → Reader (List α)
  | 0 => failure
  | n + 1 => do
    if ← accept close then return []
    else
      let first ← item
      if ← accept "," then return first :: (← listItems close item n)
      else
        expect close
        return [first]

def listUpTo {α : Type} (close : String) (item : Reader α) : Reader (List α) := do
  listItems close item (← remaining)

end Reader

end DocRepair.Php
