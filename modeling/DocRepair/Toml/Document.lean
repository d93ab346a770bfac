import DocRepair.Toml.Value

/-!
Documents of the TOML format: tables, arrays and statements.

A table is declared once. What is written inline is closed: nothing can be added to it later. Tables
that only dotted keys have made cannot be declared in later sections.
-/

namespace DocRepair.Toml

abbrev Entries := List (Datum × Datum)

/-- Changes the table at the end of a path, making tables on the way; nothing if something else is
in the way. `throughLists` says whether a list of tables stands for its last table. -/
def changeAt? (throughLists : Bool) (change : Entries → Option Entries) :
    List Text → Entries → Option Entries
  | [], entries => change entries
  | key :: rest, entries =>
    match Datum.lookup entries key with
    | none => (changeAt? throughLists change rest []).map fun inner =>
        Datum.put (.text key) (.map inner) entries
    | some (.map inner) => (changeAt? throughLists change rest inner).map fun inner =>
        Datum.put (.text key) (.map inner) entries
    | some (.list items) =>
      match throughLists, items.getLast? with
      | true, some (.map inner) => (changeAt? throughLists change rest inner).map fun inner =>
          Datum.put (.text key) (.list (items.dropLast ++ [.map inner])) entries
      | _, _ => none
    | some _ => none

def addNew? (key : Text) (value : Datum) (entries : Entries) : Option Entries :=
  if (Datum.lookup entries key).isSome then none else some (Datum.put (.text key) value entries)

def addTable? (key : Text) (entries : Entries) : Option Entries :=
  match Datum.lookup entries key with
  | none => some (Datum.put (.text key) (.list [.map []]) entries)
  | some (.list items) => some (Datum.put (.text key) (.list (items ++ [.map []])) entries)
  | some _ => none

/-- What is known about the paths of a document. -/
structure Marks where
  /-- Paths of what is written inline, closed with all below them. -/
  closed : List (List Text) := []
  /-- Paths that cannot be declared as a table. -/
  declared : List (List Text) := []
  /-- Paths that cannot be declared as a table from the next section on. -/
  pending : List (List Text) := []

namespace Marks

/-- Whether a path is closed, or one above it. -/
def isClosed (m : Marks) (path : List Text) : Bool :=
  m.closed.any (·.isPrefixOf path)

/-- Whether a path cannot be declared as a table. -/
def isDeclared (m : Marks) (path : List Text) : Bool := m.declared.contains path

/-- Begins a new section. -/
def settle (m : Marks) : Marks :=
  { m with declared := m.pending ++ m.declared, pending := [] }

/-- Forgets what is known about a path and all below it. -/
def forget (m : Marks) (path : List Text) : Marks :=
  { m with
    closed := m.closed.filter (!path.isPrefixOf ·)
    declared := m.declared.filter (!path.isPrefixOf ·) }

end Marks

/-- Whether a value is written inline with parts of its own. -/
def isCollection : Datum → Bool
  | .map _ | .list _ => true
  | _ => false

/-- A text without blanks, line feeds and comments at its start. -/
def skipLines : (fuel : Nat) → Text → Except Fault Text
  | 0, t => .ok t
  | fuel + 1, t => do
    let after ← skipComment (t.dropWhile fun c => isBlank c || c == '\n')
    if after.length = t.length then return t else skipLines fuel after

/-- Passes over blanks, line feeds and comments. -/
def skipAll (t : Text) : Except Fault Text := skipLines (t.length + 1) t

mutual

def readValue (fuel : Nat) (t : Text) : Except Fault (Datum × Text) := do
  match fuel with
  | 0 => .error .malformed
  | fuel + 1 =>
    if t.opensWith '"' || t.opensWith '\'' then
      let (found, after) ← readText t
      return (.text found, after)
    else if t.opensWith '[' then
      let after ← skipAll (t.drop 1)
      let (items, after) ← readItems fuel after
      return (.list items, after)
    else if t.opensWith '\x7b' then
      let after := skipBlanks (t.drop 1)
      if after.opensWith '\x7d' then return (.map [], after.drop 1)
      let (entries, after) ← readInline fuel [] [] after
      return (.map entries, after)
    else readWord t

/-- Reads the items of an array up to its end. -/
def readItems (fuel : Nat) (t : Text) : Except Fault (List Datum × Text) := do
  match fuel with
  | 0 => .error .malformed
  | fuel + 1 =>
    if t.opensWith ']' then return ([], t.drop 1)
    let (item, after) ← readValue fuel t
    let after ← skipAll after
    if after.opensWith ']' then return ([item], after.drop 1)
    else if after.opensWith ',' then
      let after ← skipAll (after.drop 1)
      let (others, after) ← readItems fuel after
      return (item :: others, after)
    else throw .malformed

/-- Reads a key and its value. -/
def readPair (fuel : Nat) (t : Text) : Except Fault (List Text × Datum × Text) := do
  match fuel with
  | 0 => .error .malformed
  | fuel + 1 =>
    let (key, after) ← readKey (t.length + 1) t
    if after.opensWith '=' then
      let (value, after) ← readValue fuel (skipBlanks (after.drop 1))
      return (key, value, after)
    else throw .malformed

/-- Reads the entries of an inline table up to its end; the paths that are closed are given. -/
def readInline (fuel : Nat) (closed : List (List Text)) (entries : Entries) (t : Text) :
    Except Fault (Entries × Text) := do
  match fuel with
  | 0 => .error .malformed
  | fuel + 1 =>
    let (key, value, after) ← readPair fuel t
    if closed.any (·.isPrefixOf key) then throw .malformed
    match changeAt? false (addNew? (key.getLast?.getD []) value) key.dropLast entries with
    | none => throw .malformed
    | some entries =>
      let after := skipBlanks after
      if after.opensWith '\x7d' then return (entries, after.drop 1)
      else if after.opensWith ',' then
        readInline fuel (if isCollection value then key :: closed else closed) entries
          (skipBlanks (after.drop 1))
      else throw .malformed

end

structure State where
  entries : Entries := []
  marks : Marks := {}
  /-- The path of the section. -/
  header : List Text := []

/-- The proper starts of a key, from the shortest to the longest. -/
def properStarts (key : List Text) : List (List Text) :=
  (List.range (key.length - 1)).map fun n => key.take (n + 1)

def State.assign (s : State) (key : List Text) (value : Datum) : Except Fault State :=
  let onTheWay := (properStarts key).map (s.header ++ ·)
  let parent := s.header ++ key.dropLast
  let full := s.header ++ key
  if onTheWay.any s.marks.isDeclared || s.marks.isClosed parent then .error .malformed
  else
    match changeAt? true (addNew? (key.getLast?.getD []) value) parent s.entries with
    | none => .error .malformed
    | some entries =>
      .ok { s with
        entries
        marks := { s.marks with
          pending := s.marks.pending ++ onTheWay
          closed := if isCollection value then full :: s.marks.closed else s.marks.closed } }

def State.openTable (s : State) (key : List Text) : Except Fault State :=
  let marks := s.marks.settle
  if marks.isDeclared key || marks.isClosed key then .error .malformed
  else
    match changeAt? true some key s.entries with
    | none => .error .malformed
    | some entries =>
      .ok { entries, header := key, marks := { marks with declared := key :: marks.declared } }

/-- Begins the section of a further table in a list. -/
def State.openItem (s : State) (key : List Text) : Except Fault State :=
  let marks := s.marks.settle
  if marks.isClosed key then .error .malformed
  else
    match changeAt? true (addTable? (key.getLast?.getD [])) key.dropLast s.entries with
    | none => .error .malformed
    | some entries =>
      let marks := marks.forget key
      .ok { entries, header := key, marks := { marks with declared := key :: marks.declared } }

/-- Reads one statement: the document after it, and what follows. -/
def State.readStatement (s : State) (t : Text) : Except Fault (State × Text) := do
  if t.startsWith "[[" then
    let (key, after) ← readKey (t.length + 1) (skipBlanks (t.drop 2))
    let s ← s.openItem key
    if after.startsWith "]]" then return (s, after.drop 2) else throw .malformed
  else if t.opensWith '[' then
    let (key, after) ← readKey (t.length + 1) (skipBlanks (t.drop 1))
    let s ← s.openTable key
    if after.opensWith ']' then return (s, after.drop 1) else throw .malformed
  else if t.opensWith '#' then return (s, t)
  else
    let (key, value, after) ← readPair (2 * t.length + 4) t
    return (← s.assign key value, after)

/-- Reads statements, one on a line. -/
def State.readLines (s : State) : (fuel : Nat) → Text → Except Fault State
  | 0, _ => .error .malformed
  | fuel + 1, t => do
    let t := skipBlanks t
    if t.isEmpty then return s
    else if t.opensWith '\n' then s.readLines fuel (t.drop 1)
    else
      let (s, after) ← s.readStatement t
      let after ← skipComment (skipBlanks after)
      if after.isEmpty then return s
      else if after.opensWith '\n' then s.readLines fuel (after.drop 1)
      else throw .malformed

/-- The table of a document. A carriage return before a line feed does not count. -/
def read (document : Text) : Except Fault Datum :=
  let t := Text.replace "\r\n" "\n" document
  (State.readLines {} (t.length + 1) t).map fun s => .map s.entries

end DocRepair.Toml
