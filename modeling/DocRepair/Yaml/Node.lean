import DocRepair.Yaml.Fault
import DocRepair.Yaml.Tag
import DocRepair.Yaml.Token

namespace DocRepair.Yaml

inductive Node where
  | scalar (tag : Tag) (value : Text)
  | sequence (tag : Tag) (items : List Node)
  | mapping (tag : Tag) (entries : List (Node × Node))
  deriving Repr

instance : Inhabited Node := ⟨.scalar .null []⟩

/-- A node that is not written: nothing. -/
def emptyNode : Node := .scalar .null []

/-- What reading knows so far. -/
structure ParseState where
  tokens : List Token
  anchors : List (Text × Node) := []
  handles : List (Text × Text) := []

/-- Reading is a computation on the state that may be refused. -/
abbrev Parse := StateT ParseState (Except Fault)

namespace Parse

def refuse {α : Type} : Parse α := throw .malformed

/-- The next token, which stays to be read. -/
def peek : Parse (Option Token) := do
  return (← get).tokens.head?

/-- Passes over the next token. -/
def drop : Parse Unit := modify fun s => { s with tokens := s.tokens.drop 1 }

/-- Whether one of several tokens comes next. -/
def atAny (ts : List Token) : Parse Bool := do
  return (← peek).any ts.contains

/-- Reads a token if it comes next. -/
def accept (t : Token) : Parse Bool := do
  if (← peek) == some t then
    drop
    return true
  else return false

/-- Reads a token that has to come next. -/
def expect (t : Token) : Parse Unit := do
  if !(← accept t) then refuse

/-- How many tokens are left: a bound for what can follow. -/
def remaining : Parse Nat := do
  return (← get).tokens.length

def anchored (name : Text) : Parse Node := do
  match (← get).anchors.lookup name with
  | some node => return node
  | none => refuse

def note (name : Option Text) (node : Node) : Parse Unit := do
  match name with
  | none => return
  | some n => modify fun s => { s with anchors := (n, node) :: s.anchors }

/-- The anchor and the tag that come next, in either order. -/
structure Properties where
  anchor : Option Text := none
  tag : Option (Option Text × Text) := none

/-- Reads an anchor if it comes next. -/
def readAnchor : Parse (Option Text) := do
  match ← peek with
  | some (.anchor n) => drop; return some n
  | _ => return none

/-- Reads a tag if it comes next. -/
def readTagToken : Parse (Option (Option Text × Text)) := do
  match ← peek with
  | some (.tag handle suffix) => drop; return some (handle, suffix)
  | _ => return none

/-- Reads an anchor and a tag, in either order. -/
def readProperties : Parse Properties := do
  match ← readAnchor with
  | some anchor => return ⟨some anchor, ← readTagToken⟩
  | none =>
    match ← readTagToken with
    | some tag => return ⟨← readAnchor, some tag⟩
    | none => return {}

/-- The text of a tag: its handle has to be known. -/
def tagText (tag : Option (Option Text × Text)) : Parse (Option Text) := do
  match tag with
  | none => return none
  | some (none, suffix) => return some suffix
  | some (some handle, suffix) =>
    match (← get).handles.lookup handle with
    | some start => return some (start ++ suffix)
    | none => refuse

def openTag : Text := "!"

def collectionTag (text : Option Text) (usual : Tag) : Tag :=
  match text with
  | none => usual
  | some t => if t == openTag then usual else .ofText t

def scalarTag (text : Option Text) (value : Text) (plain : Bool) : Tag :=
  match text with
  | none => if plain then .ofPlain value else .str
  | some t => if t == openTag then .ofPlain value else .ofText t

mutual

/-- Reads a node; `block` says whether it may be a block, `indentless` whether entries without an
indentation of their own may follow. -/
def readNode (fuel : Nat) (block indentless : Bool) : Parse Node := do
  match fuel with
  | 0 => refuse
  | fuel + 1 =>
    match ← peek with
    | some (.alias name) =>
      drop
      anchored name
    | _ =>
      let properties ← readProperties
      let tag ← tagText properties.tag
      if let some name := properties.anchor then
        if ((← get).anchors.lookup name).isSome then refuse
      let sequence := collectionTag tag .seq
      let mapping := collectionTag tag .map
      match ← peek with
      | some (.scalar value plain) =>
        drop
        let node := Node.scalar (scalarTag tag value plain) value
        note properties.anchor node
        return node
      | some .flowSequenceStart =>
        drop
        note properties.anchor (.sequence sequence [])
        let node := Node.sequence sequence (← readFlowItems fuel true)
        note properties.anchor node
        return node
      | some .flowMappingStart =>
        drop
        note properties.anchor (.mapping mapping [])
        let node := Node.mapping mapping (← readFlowEntries fuel true)
        note properties.anchor node
        return node
      | next =>
        if indentless && next == some .blockEntry then
          note properties.anchor (.sequence sequence [])
          let node := Node.sequence sequence
            (← readItems fuel [.blockEntry, .key, .value, .blockEnd])
          note properties.anchor node
          return node
        else if block && next == some .blockSequenceStart then
          drop
          note properties.anchor (.sequence sequence [])
          let node := Node.sequence sequence (← readItems fuel [.blockEntry, .blockEnd])
          expect .blockEnd
          note properties.anchor node
          return node
        else if block && next == some .blockMappingStart then
          drop
          note properties.anchor (.mapping mapping [])
          let node := Node.mapping mapping (← readEntries fuel)
          expect .blockEnd
          note properties.anchor node
          return node
        else if properties.anchor.isSome || tag.isSome then
          let node := Node.scalar (scalarTag tag [] true) []
          note properties.anchor node
          return node
        else refuse

/-- Reads a node, unless one of several tokens comes next. -/
def readUnless (fuel : Nat) (ends : List Token) (block indentless : Bool) : Parse Node := do
  match fuel with
  | 0 => refuse
  | fuel + 1 =>
    if ← atAny ends then return emptyNode else readNode fuel block indentless

/-- Reads the entries of a block sequence; an entry before one of several tokens is empty. -/
def readItems (fuel : Nat) (ends : List Token) : Parse (List Node) := do
  match fuel with
  | 0 => refuse
  | fuel + 1 =>
    if ← accept .blockEntry then
      let item ← readUnless fuel ends true false
      return item :: (← readItems fuel ends)
    else return []

/-- Reads the entries of a block mapping. -/
def readEntries (fuel : Nat) : Parse (List (Node × Node)) := do
  match fuel with
  | 0 => refuse
  | fuel + 1 =>
    if ← accept .key then
      let key ← readUnless fuel [.key, .value, .blockEnd] true true
      let value ← if ← accept .value then readUnless fuel [.key, .value, .blockEnd] true true
        else pure emptyNode
      return (key, value) :: (← readEntries fuel)
    else return []

/-- Reads the items between brackets. -/
def readFlowItems (fuel : Nat) (first : Bool) : Parse (List Node) := do
  match fuel with
  | 0 => refuse
  | fuel + 1 =>
    if ← accept .flowSequenceEnd then return []
    if !first then expect .flowEntry
    if ← accept .key then
      let key ← readUnless fuel [.value, .flowEntry, .flowSequenceEnd] false false
      let value ← if ← accept .value then
          readUnless fuel [.flowEntry, .flowSequenceEnd] false false
        else pure emptyNode
      return .mapping .map [(key, value)] :: (← readFlowItems fuel false)
    else if ← accept .flowSequenceEnd then return []
    else
      let item ← readNode fuel false false
      return item :: (← readFlowItems fuel false)

/-- Reads the entries between braces. -/
def readFlowEntries (fuel : Nat) (first : Bool) : Parse (List (Node × Node)) := do
  match fuel with
  | 0 => refuse
  | fuel + 1 =>
    if ← accept .flowMappingEnd then return []
    if !first then expect .flowEntry
    if ← accept .key then
      let key ← readUnless fuel [.value, .flowEntry, .flowMappingEnd] false false
      let value ← if ← accept .value then
          readUnless fuel [.flowEntry, .flowMappingEnd] false false
        else pure emptyNode
      return (key, value) :: (← readFlowEntries fuel false)
    else if ← accept .flowMappingEnd then return []
    else
      let key ← readNode fuel false false
      return (key, emptyNode) :: (← readFlowEntries fuel false)

end

/-- The handles that are always known. -/
def usualHandles : List (Text × Text) := [("!", "!"), ("!!", knownTagStart)]

/-- Reads the directives before a document; each kind of handle is set once, and the version has to
be a known one. -/
def readDirectives : (fuel : Nat) → (version : Bool) → (handles : List (Text × Text)) →
    Parse (List (Text × Text))
  | 0, _, handles => return handles
  | fuel + 1, version, handles => do
    match ← peek with
    | some (.directive (.version major)) =>
      drop
      if version || major != 1 then refuse
      readDirectives fuel true handles
    | some (.directive (.handle name start)) =>
      drop
      if (handles.lookup name).isSome then refuse
      readDirectives fuel version ((name, start) :: handles)
    | some (.directive .reserved) =>
      drop
      readDirectives fuel version handles
    | _ => return handles

def skipDocumentEnds : Parse Unit :=
  modify fun s => { s with tokens := s.tokens.dropWhile (· == .documentEnd) }

def isDocumentToken : Token → Bool
  | .directive _ | .documentStart | .documentEnd => true
  | _ => false

/-- Reads the only document; there may be none. -/
def readDocument : Parse (Option Node) := do
  let fuel := 4 * (← remaining) + 4
  match ← peek with
  | none => return none
  | some (.directive _) | some .documentStart =>
    let handles ← readDirectives fuel false []
    modify fun s => { s with handles := handles ++ usualHandles }
    expect .documentStart
    let next ← peek
    let node ← if next.all isDocumentToken then pure emptyNode else readNode fuel true false
    skipDocumentEnds
    if (← remaining) != 0 then refuse
    return some node
  | some _ =>
    modify fun s => { s with handles := usualHandles }
    let node ← readNode fuel true false
    skipDocumentEnds
    if (← remaining) != 0 then refuse
    return some node

end Parse

/-- The tree of the tokens of a document; there may be none. -/
def Node.ofTokens (tokens : List Token) : Except Fault (Option Node) :=
  (Parse.readDocument.run { tokens }).map (·.1)

end DocRepair.Yaml
