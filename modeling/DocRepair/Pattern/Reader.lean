import DocRepair.Number.Integer
import DocRepair.Pattern.Basic
import DocRepair.Text.Identifier

/-!
Reading a regular expression.

The expression is first cut into marks: single code points, and backslashes together with the code
point after them. Reading keeps the place of every mark, because each complaint names one. Some
complaints are only made about an expression that can be read to its end: of these the first counts
that an expression meets from left to right, the whole before its parts.
-/

namespace DocRepair.Pattern

/-- Why an expression is refused. -/
inductive ReadCause where
  | danglingEscape
  | unclosedSet
  | unclosedGroup
  | unclosedComment
  | unbalanced
  | nothingToRepeat
  | multipleRepeat
  | crossedRange (low high : Text)
  | crossedCounts
  | badEscape (escape : Text)
  | shortEscape (escape : Text)
  | wideOctal (escape : Text)
  | missingBrace
  | unknownCharacterName (name : Text)
  | missingName (what : Text)
  | unclosedName (terminator : CodePoint)
  | badName (name : Text)
  | unknownName (name : Text)
  | repeatedName (name : Text) (n earlier : Nat)
  | openGroup
  | badGroupNumber
  | noSuchGroup (n : Nat)
  | groupInSameLookbehind
  | thirdBranch
  | unknownExtension (extension : Text)
  | earlyEnd
  | unknownFlag
  | missingAfterFlags
  | missingFlag
  | missingColon
  | localeFlag
  | clashingFlags
  | clashingScripts
  | globalFlagOn
  | globalFlagOff
  | typeFlagOff
  | flagOnAndOff
  | lateFlags
  | unevenLookbehind
  | farLookbehind
  | repeatInTemplate (operator : Text)
  | hugeCount
  | longCount (digits : Nat)
  deriving DecidableEq, Repr

def ReadCause.text : ReadCause → Text
  | .danglingEscape => "bad escape (end of pattern)"
  | .unclosedSet => "unterminated character set"
  | .unclosedGroup => "missing ), unterminated subpattern"
  | .unclosedComment => "missing ), unterminated comment"
  | .unbalanced => "unbalanced parenthesis"
  | .nothingToRepeat => "nothing to repeat"
  | .multipleRepeat => "multiple repeat"
  | .crossedRange low high => "bad character range " ++ low ++ "-" ++ high
  | .crossedCounts => "min repeat greater than max repeat"
  | .badEscape escape => "bad escape " ++ escape
  | .shortEscape escape => "incomplete escape " ++ escape
  | .wideOctal escape => "octal escape value " ++ escape ++ " outside of range 0-0o377"
  | .missingBrace => "missing \x7b"
  | .unknownCharacterName name => "undefined character name " ++ name.quoted
  | .missingName what => "missing " ++ what
  | .unclosedName terminator => "missing " ++ terminator :: ", unterminated name"
  | .badName name => "bad character in group name " ++ name.quoted
  | .unknownName name => "unknown group name " ++ name.quoted
  | .repeatedName name n earlier =>
    "redefinition of group name " ++ name.quoted ++ " as group " ++ Text.ofNat n ++
      "; was group " ++ Text.ofNat earlier
  | .openGroup => "cannot refer to an open group"
  | .badGroupNumber => "bad group number"
  | .noSuchGroup n => "invalid group reference " ++ Text.ofNat n
  | .groupInSameLookbehind => "cannot refer to group defined in the same lookbehind subpattern"
  | .thirdBranch => "conditional backref with more than two branches"
  | .unknownExtension extension => "unknown extension ?" ++ extension
  | .earlyEnd => "unexpected end of pattern"
  | .unknownFlag => "unknown flag"
  | .missingAfterFlags => "missing -, : or )"
  | .missingFlag => "missing flag"
  | .missingColon => "missing :"
  | .localeFlag => "bad inline flags: cannot use 'L' flag with a str pattern"
  | .clashingFlags => "bad inline flags: flags 'a', 'u' and 'L' are incompatible"
  | .clashingScripts => "ASCII and UNICODE flags are incompatible"
  | .globalFlagOn => "bad inline flags: cannot turn on global flag"
  | .globalFlagOff => "bad inline flags: cannot turn off global flag"
  | .typeFlagOff => "bad inline flags: cannot turn off flags 'a', 'u' and 'L'"
  | .flagOnAndOff => "bad inline flags: flag turned on and off"
  | .lateFlags => "global flags not at the start of the expression"
  | .unevenLookbehind => "look-behind requires fixed-width pattern"
  | .farLookbehind => "looks too much behind"
  | .repeatInTemplate operator => "internal: unsupported template operator " ++ operator
  | .hugeCount => "the repetition number is too large"
  | .longCount digits => longIntegerText digits

/-- Complaints that are not about how the expression is written have a kind of their own. -/
def ReadCause.kind? : ReadCause → Option Text
  | .hugeCount => some "OverflowError"
  | .clashingScripts | .longCount _ => some "ValueError"
  | _ => none

/-- A complaint about an expression, with the place it is about. -/
structure ReadError where
  cause : ReadCause
  place : Option Nat
  deriving DecidableEq, Repr

/-- The message of a complaint: a place in an expression of several lines is also given by line
and column. -/
def ReadError.message (expression : Text) (e : ReadError) : Text :=
  match e.place with
  | none => e.cause.text
  | some place =>
    let message := e.cause.text ++ " at position " ++ Text.ofNat place
    if expression.contains '\n' then
      let before := expression.take place
      let line := before.count ('\n' : CodePoint) + 1
      let column := (before.reverse.takeWhile fun c => c != ('\n' : CodePoint)).length + 1
      message ++ " (line " ++ Text.ofNat line ++ ", column " ++ Text.ofNat column ++ ")"
    else message

structure Flags where
  anyCase : Bool := false
  multiline : Bool := false
  dotAll : Bool := false
  verbose : Bool := false
  /-- Classes and letter case are those of the code points below U+0080. -/
  ascii : Bool := false
  /-- Classes and letter case are those of all scripts, as they are without this switch. -/
  unicode : Bool := false
  /-- Nothing can be repeated. -/
  template : Bool := false
  deriving DecidableEq, Repr

namespace Flags

/-- The set of some items in the script and the case that count. -/
def setOf (flags : Flags) (items : List SetItem) (negated : Bool := false) : CharSet :=
  if flags.ascii then
    let items := items.map SetItem.ascii
    ⟨if flags.anyCase then items.flatMap SetItem.inBothCases else items, negated, false⟩
  else ⟨items, negated, flags.anyCase⟩

def anchorOf (flags : Flags) (a : Anchor) : Anchor :=
  if flags.ascii then a.ascii else a

def likeness (flags : Flags) : Likeness :=
  if !flags.anyCase then .exact else if flags.ascii then .anyAsciiCase else .anyCase

/-- Flags with some turned on and some turned off; of the two scripts the one turned on counts. -/
def change (flags : Flags) (on off : Text) : Flags :=
  { anyCase := (flags.anyCase || on.contains 'i') && !off.contains 'i'
    multiline := (flags.multiline || on.contains 'm') && !off.contains 'm'
    dotAll := (flags.dotAll || on.contains 's') && !off.contains 's'
    verbose := (flags.verbose || on.contains 'x') && !off.contains 'x'
    ascii := on.contains 'a' || (flags.ascii && !on.contains 'u')
    unicode := on.contains 'u' || (flags.unicode && !on.contains 'a')
    template := flags.template || on.contains 't' }

/-- Flags with some turned on for the whole expression. -/
def add (flags : Flags) (on : Text) : Flags :=
  { flags.change on [] with
    ascii := flags.ascii || on.contains 'a'
    unicode := flags.unicode || on.contains 'u' }

end Flags

/-- A code point, or a backslash with the code point after it; a backslash at the end has none. -/
structure Mark where
  place : Nat
  text : Text
  deriving DecidableEq, Repr

/-- Whether a mark is a backslash without a code point. -/
def Mark.dangles (m : Mark) : Bool :=
  m.text == ("\\" : Text)

/-- The marks of an expression, from a place on. -/
def marksFrom : (place : Nat) → Text → List Mark
  | _, [] => []
  | place, [c] => [⟨place, [c]⟩]
  | place, c :: d :: rest =>
    if c = '\\' then ⟨place, [c, d]⟩ :: marksFrom (place + 2) rest
    else ⟨place, [c]⟩ :: marksFrom (place + 1) (d :: rest)

/-- The least and the greatest width that a pattern can match; both stop at a ceiling. -/
structure Width where
  least : Nat
  most : Nat
  deriving DecidableEq, Repr

namespace Width

def ceiling : Nat := 0x10000000000000000

def add (a b : Width) : Width :=
  ⟨min (a.least + b.least) ceiling, min (a.most + b.most) ceiling⟩

def either (a b : Width) : Width :=
  ⟨min a.least b.least, max a.most b.most⟩

def times (least : Nat) (most : Option Nat) (a : Width) : Width :=
  ⟨min (a.least * least) ceiling,
    match most with
    | some most => min (a.most * most) ceiling
    | none => if a.most = 0 then 0 else ceiling⟩

end Width

/-- The widths of a pattern, given those of the groups it may refer to. -/
def width (groups : List (Nat × Width)) : Pattern → Width
  | .empty | .ahead .. | .behind .. | .anchor _ => ⟨0, 0⟩
  | .set _ => ⟨1, 1⟩
  | .seq p q => (p.width groups).add (q.width groups)
  | .alt p q => (p.width groups).either (q.width groups)
  | .rep least most _ p => (p.width groups).times least most
  | .group _ p | .atomic p => p.width groups
  | .again n _ => (groups.lookup n).getD ⟨0, 0⟩
  | .given _ yes no => (yes.width groups).either (no.width groups)

/-- What reading knows so far. -/
structure ReadState where
  /-- The marks that are still to be read. -/
  marks : List Mark
  /-- The length of the whole expression. -/
  length : Nat
  /-- The number of the next group. -/
  nextGroup : Nat := 1
  names : List (Text × Nat) := []
  /-- The groups that have been closed, with their widths. -/
  closed : List (Nat × Width) := []
  /-- Inside a lookbehind, the number its first group would have. -/
  lookbehind : Option Nat := none
  /-- Groups that conditions ask for, with the place of the condition. -/
  conditions : List (Nat × Nat) := []
  /-- The first complaint about what has been read, with the place of the piece it is about. -/
  objection : Option (Nat × ReadCause) := none
  flags : Flags := {}
  /-- The code points that have a name. -/
  named : Text → Option CodePoint := fun _ => none

/-- Reading is a computation on the state that may be refused. -/
abbrev Read := StateT ReadState (Except ReadError)

namespace Read

/-- The place of the next mark. -/
def here : Read Nat := do
  let s ← get
  return match s.marks with
    | m :: _ => m.place
    | [] => s.length

/-- Refuses the expression, at a place some code points back. -/
def fail {α : Type} (cause : ReadCause) (back : Nat := 0) : Read α := do
  throw ⟨cause, some ((← here) - back)⟩

/-- The next mark, which stays to be read. -/
def peek : Read (Option Text) := do
  return (← get).marks.head?.map (·.text)

/-- Moves to other marks; a dangling backslash is refused as soon as it comes next. -/
def moveTo (marks : List Mark) : Read Unit := do
  match marks with
  | m :: _ => if m.dangles then throw ⟨.danglingEscape, some m.place⟩
  | [] => pure ()
  modify ({ · with marks })

def take : Read (Option Text) := do
  match (← get).marks with
  | m :: rest => moveTo rest; return some m.text
  | [] => return none

/-- Reads a given code point if it comes next. -/
def accept (c : CodePoint) : Read Bool := do
  if (← peek) == some [c] then
    let _ ← take
    return true
  else return false

/-- Reads at most so many code points of a class. -/
def takeWhile (p : CodePoint → Bool) : Nat → Read Text
  | 0 => return []
  | n + 1 => do
    match ← peek with
    | some [c] =>
      if p c then
        let _ ← take
        return c :: (← takeWhile p n)
      else return []
    | _ => return []

/-- Objects to the piece that begins at a place, unless an earlier piece is objected to. A piece
that begins where one of its parts does comes before that part. -/
def object (place : Nat) (cause : ReadCause) : Read Unit :=
  modify fun s =>
    match s.objection with
    | some (earlier, _) => if earlier < place then s else { s with objection := some (place, cause) }
    | none => { s with objection := some (place, cause) }

/-- Reads up to a terminator; `soFar` has been read. -/
def takeUntil (terminator : CodePoint) (what : Text) : (fuel : Nat) → (soFar : Text) → Read Text
  | 0, soFar => return soFar
  | fuel + 1, soFar => do
    match ← take with
    | none =>
      if soFar.isEmpty then fail (.missingName what)
      else fail (.unclosedName terminator) soFar.length
    | some m =>
      if m == [terminator] then
        if soFar.isEmpty then fail (.missingName what) 1 else return soFar
      else takeUntil terminator what fuel (soFar ++ m)

end Read

open Read

private def isOctal (c : CodePoint) : Bool := c.inRange '0' '7'

private def isHex (c : CodePoint) : Bool := c.hex?.isSome

private def numberIn (base : Nat) (digits : Text) : Nat :=
  digits.foldl (fun n c => n * base + c.hex?.getD 0) 0

/-- The code points that a letter after a backslash stands for. -/
def namedControl? (c : CodePoint) : Option CodePoint :=
  if c = 'a' then some (.ofNat 7)
  else if c = 'b' then some (.ofNat 8)
  else if c = 'f' then some (.ofNat 12)
  else if c = 'n' then some '\n'
  else if c = 'r' then some '\r'
  else if c = 't' then some '\t'
  else if c = 'v' then some (.ofNat 11)
  else if c = '\\' then some '\\'
  else none

/-- The classes that a letter after a backslash stands for. -/
def namedClass? (c : CodePoint) : Option SetItem :=
  if c = 'd' then some (.named .digit false)
  else if c = 'D' then some (.named .digit true)
  else if c = 's' then some (.named .blank false)
  else if c = 'S' then some (.named .blank true)
  else if c = 'w' then some (.named .word false)
  else if c = 'W' then some (.named .word true)
  else none

/-- The anchors that a letter after a backslash stands for. -/
def namedAnchor? (c : CodePoint) : Option Anchor :=
  if c = 'A' then some .textStart
  else if c = 'Z' then some .textEnd
  else if c = 'b' then some .wordEdge
  else if c = 'B' then some .noWordEdge
  else none

/-- Reads a code point given by so many hexadecimal digits. -/
private def readHex (escape : Text) (width : Nat) : Read CodePoint := do
  let digits ← takeWhile isHex width
  let escape := escape ++ digits
  if digits.length ≠ width then fail (.shortEscape escape) escape.length
  let n := numberIn 16 digits
  if n < 0x110000 then return .ofNat n
  else fail (.badEscape escape) escape.length

/-- Reads a code point given by its name. -/
private def readNamed : Read CodePoint := do
  if !(← accept '\x7b') then fail .missingBrace
  let name ← takeUntil '\x7d' "character name" ((← get).marks.length + 1) []
  if name.any CodePoint.isSurrogate then fail (.badEscape "\\N") 2
  let some c := (← get).named name | fail (.unknownCharacterName name) (name.length + 4)
  return c

/-- The escapes with hexadecimal digits or a name, which mean the same everywhere. -/
private def readNumeric? (escape : Text) (c : CodePoint) : Read (Option CodePoint) := do
  if c = 'x' then return some (← readHex escape 2)
  else if c = 'u' then return some (← readHex escape 4)
  else if c = 'U' then return some (← readHex escape 8)
  else if c = 'N' then return some (← readNamed)
  else return none

def readSetEscape (c : CodePoint) : Read SetItem := do
  let escape : Text := ['\\', c]
  if let some d := namedControl? c then return .one d
  if let some item := namedClass? c then return item
  if let some d ← readNumeric? escape c then return .one d
  if isOctal c then
    let more ← takeWhile isOctal 2
    let n := numberIn 8 (c :: more)
    if n > 0o377 then fail (.wideOctal (escape ++ more)) (escape.length + more.length)
    return .one (.ofNat n)
  if c.isAsciiDigit || c.isAsciiLetter then fail (.badEscape escape) 2
  return .one c

/-- Reads the items of a set up to its closing bracket; `start` is the place of its opening one. -/
def readSetItems (start : Nat) : (fuel : Nat) → (items : List SetItem) → Read (List SetItem)
  | 0, items => return items
  | fuel + 1, items => do
    let some this ← take | fail .unclosedSet ((← here) - start)
    if this == ("]" : Text) && !items.isEmpty then return items
    let first ← match this with
      | [c] => pure (SetItem.one c)
      | _ :: c :: _ => readSetEscape c
      | [] => fail .unclosedSet
    if ← accept '-' then
      let some that ← take | fail .unclosedSet ((← here) - start)
      if that == ("]" : Text) then return items ++ [first, .one '-']
      let last ← match that with
        | [c] => pure (SetItem.one c)
        | _ :: c :: _ => readSetEscape c
        | [] => fail .unclosedSet
      match first, last with
      | .one low, .one high =>
        if high.val < low.val then
          fail (.crossedRange this that) (this.length + 1 + that.length)
        readSetItems start fuel (items ++ [.range low high])
      | _, _ => fail (.crossedRange this that) (this.length + 1 + that.length)
    else readSetItems start fuel (items ++ [first])

/-- Refuses a reference to a group that a lookbehind around it defines. -/
private def checkLookbehind (n : Nat) : Read Unit := do
  let s ← get
  if let some first := s.lookbehind then
    if (s.closed.lookup n).isNone then fail .openGroup
    if n ≥ first then fail .groupInSameLookbehind

/-- What a piece of a sequence is, as far as repeating it goes. -/
inductive PieceKind where
  | anchor
  | repetition
  | other
  deriving DecidableEq

/-- A piece of a sequence, with the place where it begins. -/
structure Piece where
  kind : PieceKind
  pattern : Pattern
  place : Nat

private def literal (flags : Flags) (c : CodePoint) : PieceKind × Pattern :=
  (.other, .set (flags.setOf [.one c]))

/-- Reads an escape outside sets. -/
def readEscape (flags : Flags) (c : CodePoint) : Read (PieceKind × Pattern) := do
  let escape : Text := ['\\', c]
  if let some a := namedAnchor? c then return (.anchor, .anchor (flags.anchorOf a))
  if let some item := namedClass? c then return (.other, .set (flags.setOf [item]))
  if let some d := namedControl? c then return literal flags d
  if let some d ← readNumeric? escape c then return literal flags d
  if c = '0' then
    let more ← takeWhile isOctal 2
    return literal flags (.ofNat (numberIn 8 more))
  if c.isAsciiDigit then
    let second ← takeWhile CodePoint.isAsciiDigit 1
    if isOctal c && second.any isOctal then
      let third ← takeWhile isOctal 1
      if !third.isEmpty then
        let n := numberIn 8 (c :: second ++ third)
        if n > 0o377 then fail (.wideOctal (escape ++ second ++ third)) 4
        return literal flags (.ofNat n)
    let n := numberIn 10 (c :: second)
    let s ← get
    if n < s.nextGroup then
      if (s.closed.lookup n).isNone then fail .openGroup (2 + second.length)
      checkLookbehind n
      return (.other, .again n flags.likeness)
    fail (.noSuchGroup n) (1 + second.length)
  if c.isAsciiLetter then fail (.badEscape escape) 2
  return literal flags c

private def isFlag (m : Text) : Bool :=
  m.length == 1 && (m.head?.any fun c => c.isOneOf "iLmsxatu")

private def isTypeFlag (c : CodePoint) : Bool := c.isOneOf "aLu"

private def isLetterMark (m : Text) : Bool :=
  m.length == 1 && m.all CodePoint.isAlphabetic

/-- Reads the flags to turn on, the first of which has been read, and what ends them. -/
private def readFlagsOn : (fuel : Nat) → (first : CodePoint) → (on : Text) → Read (Text × CodePoint)
  | 0, c, on => return (on, c)
  | fuel + 1, c, on => do
    if c = 'L' then fail .localeFlag
    let on := if on.contains c then on else on ++ [c]
    if isTypeFlag c && on.any (fun d => isTypeFlag d && d != c) then fail .clashingFlags
    match ← take with
    | none => fail .missingAfterFlags
    | some m =>
      if m == (")" : Text) || m == ("-" : Text) || m == (":" : Text) then
        return (on, m.headD ')')
      else if !isFlag m then
        fail (if isLetterMark m then .unknownFlag else .missingAfterFlags) m.length
      else readFlagsOn fuel (m.headD ')') on

/-- Reads the flags to turn off, the first of which has been read, up to the colon. -/
private def readFlagsOff : (fuel : Nat) → (first : CodePoint) → (off : Text) → Read Text
  | 0, _, off => return off
  | fuel + 1, c, off => do
    if isTypeFlag c then fail .typeFlagOff
    let off := off ++ [c]
    match ← take with
    | none => fail .missingColon
    | some m =>
      if m == (":" : Text) then return off
      else if !isFlag m then
        fail (if isLetterMark m then .unknownFlag else .missingColon) m.length
      else readFlagsOff fuel (m.headD ':') off

/-- What the flags after an opening bracket ask for. -/
private inductive FlagChange where
  | everywhere (on : Text)
  | inGroup (on off : Text)

private def readFlagChange (first : CodePoint) : Read FlagChange := do
  let fuel := (← get).marks.length + 1
  let (on, stop) ← if first = '-' then pure ([], first) else readFlagsOn fuel first []
  if stop = ')' then return .everywhere on
  if on.contains 't' then fail .globalFlagOn 1
  let off ← if stop = '-' then do
      match ← take with
      | none => fail .missingFlag
      | some m =>
        if !isFlag m then fail (if isLetterMark m then .unknownFlag else .missingFlag) m.length
        readFlagsOff fuel (m.headD ':') []
    else pure []
  if off.contains 't' then fail .globalFlagOff 1
  if on.any off.contains then fail .flagOnAndOff 1
  return .inGroup on off

private def checkName (name : Text) : Read Unit := do
  if !name.isIdentifier then fail (.badName name) (name.length + 1)

private def openGroup (name : Option Text) : Read Nat := do
  let s ← get
  let n := s.nextGroup
  modify ({ · with nextGroup := n + 1 })
  if let some name := name then
    if let some earlier := s.names.lookup name then
      fail (.repeatedName name n earlier) (name.length + 1)
    modify fun s => { s with names := s.names ++ [(name, n)] }
  return n

private def maxGroups : Nat := 1073741823

/-- Reads the condition of a conditional group: the name of a group, or what is written like its
number. -/
private def readCondition : Read Nat := do
  let name ← takeUntil ')' "group name" ((← get).marks.length + 1) []
  let back := name.length + 1
  if name.isIdentifier then
    match (← get).names.lookup name with
    | some n => return n
    | none => fail (.unknownName name) back
  match readInteger name with
  | .error _ | .ok (.negSucc _) => fail (.badName name) back
  | .ok (.ofNat n) =>
    if n = 0 then fail .badGroupNumber back
    if n ≥ maxGroups then fail (.noSuchGroup n) back
    let place := (← here) - back
    modify fun s =>
      if s.conditions.any (·.1 == n) then s else { s with conditions := s.conditions ++ [(n, place)] }
    return n

/-- Skips the rest of a line, its line feed included. -/
private def skipLine : (fuel : Nat) → Read Unit
  | 0 => return
  | fuel + 1 => do
    match ← take with
    | none => return
    | some m => if m == Text.newline then return else skipLine fuel

private def skipComment (start : Nat) : (fuel : Nat) → Read Unit
  | 0 => return
  | fuel + 1 => do
    match ← take with
    | none => fail .unclosedComment ((← here) - start)
    | some m => if m == (")" : Text) then return else skipComment start fuel

private def maxCount : Nat := 4294967295

/-- Reads a counted repetition after its opening brace; without a closing brace, nothing. -/
private def readCounts : Read (Option (Nat × Option Nat)) := do
  let before := (← get).marks
  let start ← here
  let fuel := before.length
  let low ← takeWhile CodePoint.isAsciiDigit fuel
  let high ← if ← accept ',' then takeWhile CodePoint.isAsciiDigit fuel else pure low
  if !(← accept '\x7d') then
    moveTo before
    return none
  let count := fun digits : Text => do
    if digits.length > maxIntegerDigits then throw ⟨.longCount digits.length, none⟩
    let n := numberIn 10 digits
    if n ≥ maxCount then throw ⟨.hugeCount, none⟩
    return n
  let least ← count low
  let most ← if high.isEmpty then pure none else some <$> count high
  if most.any (· < least) then fail .crossedCounts ((← here) - start)
  return some (least, most)

/-- Repeats the last piece of a sequence; `start` is the place after the repetition sign. -/
def repeatLast (flags : Flags) (pieces : List Piece) (start : Nat) (least : Nat)
    (most : Option Nat) : Read (List Piece) := do
  let back := (← here) - start + 1
  let some last := pieces.getLast? | fail .nothingToRepeat back
  if last.kind = .anchor then fail .nothingToRepeat back
  if last.kind = .repetition then fail .multipleRepeat back
  let add := fun (operator : Text) (repeated : Pattern) => do
    if flags.template then object last.place (.repeatInTemplate operator)
    return pieces.dropLast ++ [⟨.repetition, repeated, last.place⟩]
  if ← accept '?' then add "MIN_REPEAT" (.rep least most .lazy last.pattern)
  else if ← accept '+' then
    add "POSSESSIVE_REPEAT" (.atomic (.rep least most .greedy last.pattern))
  else add "MAX_REPEAT" (.rep least most .greedy last.pattern)

private def isVerboseBlank (m : Text) : Bool :=
  m.length == 1 && m.all CodePoint.isAsciiBlank

/-- The code points that have a meaning of their own outside sets. -/
def isSpecial (c : CodePoint) : Bool := c.isOneOf ".\\[\x7b()*+?^$|"

mutual

/-- Reads alternatives up to a closing bracket or the end. -/
def readAlternatives (fuel : Nat) (flags : Flags) (outermost : Bool) : Read Pattern := do
  match fuel with
  | 0 => return .empty
  | fuel + 1 =>
    let first ← readSequence fuel flags outermost []
    if ← accept '|' then
      let state ← get
      let flags := if outermost then state.flags else flags
      return .alt first (← readMoreAlternatives fuel flags)
    else return first

/-- Reads the alternatives after the first. -/
def readMoreAlternatives (fuel : Nat) (flags : Flags) : Read Pattern := do
  match fuel with
  | 0 => return .empty
  | fuel + 1 =>
    let first ← readSequence fuel flags false []
    if ← accept '|' then return .alt first (← readMoreAlternatives fuel flags)
    else return first

/-- Reads a sequence of pieces, after some that have been read. -/
def readSequence (fuel : Nat) (flags : Flags) (first : Bool) (pieces : List Piece) :
    Read Pattern := do
  match fuel with
  | 0 => return all (pieces.map (·.pattern))
  | fuel + 1 =>
    let some this ← peek | return all (pieces.map (·.pattern))
    if this == ("|" : Text) || this == (")" : Text) then return all (pieces.map (·.pattern))
    let place ← here
    let _ ← take
    let add := fun (kind, p) => readSequence fuel flags first (pieces ++ [⟨kind, p, place⟩])
    match this with
    | _ :: d :: _ => add (← readEscape flags d)
    | [c] =>
      if flags.verbose && isVerboseBlank this then readSequence fuel flags first pieces
      else if flags.verbose && c = '#' then
        skipLine ((← get).marks.length + 1)
        readSequence fuel flags first pieces
      else if !isSpecial c then add (literal flags c)
      else if c = '[' then
        let negated ← accept '^'
        let items ← readSetItems place ((← get).marks.length + 1) []
        add (.other, .set (flags.setOf items negated))
      else if c = '.' then
        add (.other, if flags.dotAll then anything else notNewline)
      else if c = '^' then
        add (.anchor, .anchor (if flags.multiline then .lineStart else .textStart))
      else if c = '$' then
        add (.anchor, .anchor (if flags.multiline then .lineEnd else .lastLineEnd))
      else if c = '(' then
        readBracket fuel flags first pieces place
      else
        let start ← here
        if c = '?' then
          readSequence fuel flags first (← repeatLast flags pieces start 0 (some 1))
        else if c = '*' then
          readSequence fuel flags first (← repeatLast flags pieces start 0 none)
        else if c = '+' then
          readSequence fuel flags first (← repeatLast flags pieces start 1 none)
        else if (← peek) == some ("\x7d" : Text) then add (literal flags c)
        else
          match ← readCounts with
          | some (least, most) =>
            readSequence fuel flags first (← repeatLast flags pieces start least most)
          | none => add (literal flags c)
    | [] => return all (pieces.map (·.pattern))

/-- Reads what follows an opening bracket at a place, and the rest of the sequence. -/
def readBracket (fuel : Nat) (flags : Flags) (first : Bool) (pieces : List Piece) (start : Nat) :
    Read Pattern := do
  match fuel with
  | 0 => return .empty
  | fuel + 1 =>
    let add := fun p : Pattern => readSequence fuel flags first (pieces ++ [⟨.other, p, start⟩])
    let close : Read Unit := do
      if !(← accept ')') then fail .unclosedGroup ((← here) - start)
    let readGroup := fun (name : Option Text) => do
      let n ← openGroup name
      let p ← readAlternatives fuel flags false
      close
      modify fun s => { s with closed := (n, p.width s.closed) :: s.closed }
      add (.group n p)
    if !(← accept '?') then readGroup none
    else
      let some m ← take | fail .earlyEnd
      if m == ("P" : Text) then
        if ← accept '<' then
          let name ← takeUntil '>' "group name" ((← get).marks.length + 1) []
          checkName name
          readGroup (some name)
        else if ← accept '=' then
          let name ← takeUntil ')' "group name" ((← get).marks.length + 1) []
          checkName name
          let some n := (← get).names.lookup name | fail (.unknownName name) (name.length + 1)
          if ((← get).closed.lookup n).isNone then fail .openGroup (name.length + 1)
          checkLookbehind n
          add (.again n flags.likeness)
        else
          let some extra ← take | fail .earlyEnd
          fail (.unknownExtension ("P" ++ extra)) (extra.length + 2)
      else if m == (":" : Text) then
        let p ← readAlternatives fuel flags false
        close
        add p
      else if m == (">" : Text) then
        let p ← readAlternatives fuel flags false
        close
        add (.atomic p)
      else if m == ("#" : Text) then
        skipComment start ((← get).marks.length + 1)
        readSequence fuel flags first pieces
      else if m == ("=" : Text) || m == ("!" : Text) then
        let p ← readAlternatives fuel flags false
        close
        add (.ahead (m == ("=" : Text)) p)
      else if m == ("<" : Text) then
        let some kind ← take | fail .earlyEnd
        if !(kind == ("=" : Text) || kind == ("!" : Text)) then
          fail (.unknownExtension ("<" ++ kind)) (kind.length + 2)
        let outer := (← get).lookbehind
        if outer.isNone then modify fun s => { s with lookbehind := some s.nextGroup }
        let p ← readAlternatives fuel flags false
        modify ({ · with lookbehind := outer })
        close
        let w := p.width (← get).closed
        if w.least > maxCount then object start .farLookbehind
        else if w.most ≠ w.least then object start .unevenLookbehind
        add (.behind (kind == ("=" : Text)) w.least p)
      else if m == ("(" : Text) then
        let n ← readCondition
        checkLookbehind n
        let yes ← readSequence fuel flags false []
        let no ←
          if ← accept '|' then do
            let no ← readSequence fuel flags false []
            if (← peek) == some ("|" : Text) then fail .thirdBranch
            pure no
          else pure .empty
        close
        add (.given n yes no)
      else if isFlag m || m == ("-" : Text) then
        match ← readFlagChange (m.headD '-') with
        | .everywhere on =>
          if !first || !pieces.isEmpty then fail .lateFlags ((← here) - start)
          modify fun s => { s with flags := s.flags.add on }
          readSequence fuel (flags.add on) first pieces
        | .inGroup on off =>
          let p ← readAlternatives fuel (flags.change on off) false
          close
          add p
      else fail (.unknownExtension m) (m.length + 1)

end

def readWhole (fuel : Nat) (flags : Flags) : Read Pattern := do
  moveTo (← get).marks
  let p ← readAlternatives fuel flags true
  let s ← get
  if s.flags.ascii && s.flags.unicode then throw ⟨.clashingScripts, none⟩
  if !s.marks.isEmpty then fail .unbalanced
  for (n, place) in s.conditions do
    if n ≥ s.nextGroup then throw ⟨.noSuchGroup n, some place⟩
  if let some (_, cause) := s.objection then throw ⟨cause, none⟩
  return p

/-- The pattern that an expression stands for, given the code points that have a name. -/
def ofExpression (expression : Text) (flags : Flags := {})
    (named : Text → Option CodePoint := fun _ => none) : Except ReadError Pattern :=
  let state : ReadState :=
    { marks := marksFrom 0 expression, length := expression.length, flags, named }
  (readWhole (4 * expression.length + 8) flags).run' state

end DocRepair.Pattern
