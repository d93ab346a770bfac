import DocRepair.Php.Token
import DocRepair.Text.Digit
import DocRepair.Text.LetterCase
import DocRepair.Text.Search

namespace DocRepair.Php

inductive Mode where
  /-- Code between braces, or the whole file. -/
  | code
  /-- Code that is a variable part of a string. -/
  | part
  /-- A string that ends with a quote. -/
  | quoted (quote : CodePoint)
  /-- A string that ends with a label on a line of its own. -/
  | heredoc (label : Text)
  deriving DecidableEq, Repr

def isBlank (c : CodePoint) : Bool :=
  c.val == 32 || (9 ≤ c.val && c.val ≤ 13) || c.val == 0xA0 || c.val == 0x200B ||
    c.val == 0x2060 || c.val == 0xFEFF

def isInlineBlank (c : CodePoint) : Bool :=
  c == ' ' || c == '\t'

/-- Code points that begin a name. -/
def isNameStart (c : CodePoint) : Bool :=
  c == '_' || c.inRange 'a' 'z' || c.inRange 'A' 'Z' ||
    (0x80 ≤ c.val && !isBlank c && !c.isSurrogate)

def isNameChar (c : CodePoint) : Bool :=
  isNameStart c || c.isAsciiDigit

/-- The operators and punctuation marks, longer ones before their beginnings. -/
def signs : List String :=
  ["<=>", "**=", "...", "<<=", ">>=", "===", "!==", "??=", "?->", "<>", "||", "&&", "==", "!=",
    "<=", ">=", "->", "=>", "::", "++", "--", "+=", "-=", "*=", "/=", ".=", "%=", "&=", "|=", "^=",
    "<<", ">>", "**", "??", "#[", "+", "-", "*", "/", "%", "=", "<", ">", "!", ".", ",", ";", ":",
    "?", "&", "|", "^", "~", "@", "$", "(", ")", "[", "]", "\\"]

def castNames : List Text :=
  ["array", "binary", "bool", "boolean", "double", "int", "integer", "float", "object", "real",
    "string", "unset", "void"]

/-- One step of the lexer: a token or none, its length, and the modes after it. -/
structure Step where
  kind : Option TokenKind
  length : Nat
  modes : List Mode

/-- The length of a text section after its closing mark: up to and with the next opening mark. -/
def textLength : Text → Nat
  | [] => 0
  | c :: rest =>
    if c = '<' ∧ Text.opensWith rest '?' then
      let after := rest.drop 1
      if Text.opensWith after '=' then 3
      else if Text.startsWith (Text.lower (after.take 3)) "php" then 5
      else 2
    else textLength rest + 1

/-- The length of a comment that ends with its line or before a closing mark. -/
def lineCommentLength : Text → Nat
  | [] => 0
  | c :: rest =>
    if c = '\n' then 0
    else if c = '?' ∧ Text.opensWith rest '>' then 0
    else lineCommentLength rest + 1

def blockCommentLength? : Text → Option Nat
  | [] => none
  | c :: rest =>
    if c = '*' ∧ Text.opensWith rest '/' then some 2
    else (blockCommentLength? rest).map (· + 1)

def quotedLength? (quote : CodePoint) : Text → Option Nat
  | [] => none
  | [c] => if c = quote then some 1 else none
  | c :: d :: rest =>
    if c = quote then some 1
    else if c = '\\' then (quotedLength? quote rest).map (· + 2)
    else (quotedLength? quote (d :: rest)).map (· + 1)

/-- The length of a name, with parts between backslashes. -/
def nameLength : Text → Nat
  | [] => 0
  | [c] => if isNameChar c then 1 else 0
  | c :: d :: rest =>
    if isNameChar c then nameLength (d :: rest) + 1
    else if c = '\\' ∧ isNameStart d then nameLength (d :: rest) + 1
    else 0

private def digitRun (p : CodePoint → Bool) (t : Text) : Nat :=
  (t.takeWhile fun c => p c || c == '_').length

private def exponentLength (t : Text) : Nat :=
  match t with
  | c :: rest =>
    if c = 'e' || c = 'E' then
      let sign := if Text.opensWith rest '+' || Text.opensWith rest '-' then 1 else 0
      let digits := digitRun CodePoint.isAsciiDigit (rest.drop sign)
      if digits = 0 then 0 else 1 + sign + digits
    else 0
  | [] => 0

def numberLength (t : Text) : Nat :=
  let second : Text := Text.lower ((t.drop 1).take 1)
  if t.opensWith '0' && (second == ("x" : Text)) then
    2 + digitRun (fun c => c.hex?.isSome) (t.drop 2)
  else if t.opensWith '0' && (second == ("b" : Text) || second == ("o" : Text)) then
    2 + digitRun CodePoint.isAsciiDigit (t.drop 2)
  else
    let whole := digitRun CodePoint.isAsciiDigit t
    let after := t.drop whole
    let fraction :=
      if Text.opensWith after '.' then
        let next := after.drop 1
        let digits := digitRun CodePoint.isAsciiDigit next
        if digits ≠ 0 then 1 + digits
        else if Text.opensWith next '.' || Text.opensWith next '=' then 0
        else 1
      else 0
    whole + fraction + exponentLength (after.drop fraction)

/-- The length of a cast: a type name between round brackets. -/
def castLength? (t : Text) : Option Nat :=
  let inside := t.drop 1
  let lead := (inside.takeWhile isBlank).length
  let word := (inside.drop lead).takeWhile isNameChar
  let after := inside.drop (lead + word.length)
  let tail := (after.takeWhile isBlank).length
  if castNames.contains (Text.lower word) && Text.opensWith (after.drop tail) ')' then
    some (1 + lead + word.length + tail + 1)
  else none

/-- The start of a heredoc: its length, its label, and whether it has variable parts. -/
structure HeredocStart where
  length : Nat
  label : Text
  isTemplate : Bool

/-- Reads the start of a heredoc after its three angle brackets, with the end of its line. -/
def heredocStart? (t : Text) : Option HeredocStart :=
  let lead := (t.takeWhile isInlineBlank).length
  let body := t.drop lead
  let quote := body.head?.filter fun c : CodePoint => c == '\'' || c == '"'
  let width := if quote.isSome then 1 else 0
  let label := (body.drop width).takeWhile isNameChar
  let after := body.drop (width + label.length)
  let closed := match quote with
    | some q => Text.opensWith after q
    | none => true
  let after := after.drop width
  let newline :=
    if Text.startsWith after "\r\n" then 2
    else if Text.opensWith after '\n' then 1
    else 0
  if label.head?.any isNameStart && closed && newline ≠ 0 then
    some ⟨lead + 2 * width + label.length + newline, label, quote != some '\''⟩
  else none

/-- The length of the end of a heredoc at the start of a line: blanks and the label. -/
def heredocEnd? (label t : Text) : Option Nat :=
  let lead := (t.takeWhile isInlineBlank).length
  let body := t.drop lead
  if Text.startsWith body label && !(body.drop label.length).head?.any isNameChar then
    some (lead + label.length)
  else none

/-- The length of a nowdoc body with its end; `lineStart` says whether a line begins here. -/
def nowdocLength? (label : Text) : (lineStart : Bool) → Text → Option Nat
  | lineStart, t =>
    match (if lineStart then heredocEnd? label t else none) with
    | some n => some n
    | none =>
      match t with
      | [] => none
      | c :: rest => (nowdocLength? label (c == '\n') rest).map (· + 1)

/-- The length of a plain variable inside a string: its name, and at most one index or member. -/
def plainPartLength? (t : Text) : Option Nat :=
  let name := ((t.drop 1).takeWhile isNameChar).length
  let after := t.drop (1 + name)
  if Text.opensWith after '[' then
    let inside := after.drop 1
    let sign := if Text.opensWith inside '-' || Text.opensWith inside '$' then 1 else 0
    let key := ((inside.drop sign).takeWhile isNameChar).length
    if key ≠ 0 && Text.opensWith (inside.drop (sign + key)) ']' then
      some (1 + name + 1 + sign + key + 1)
    else none
  else
    let arrow := if Text.startsWith after "->" then 2 else if Text.startsWith after "?->" then 3 else 0
    let member := after.drop arrow
    if arrow ≠ 0 && member.head?.any isNameStart then
      some (1 + name + arrow + (member.takeWhile isNameChar).length)
    else some (1 + name)

def codeStep (modes : List Mode) (t : Text) : Option Step :=
  let token := fun (kind : TokenKind) (length : Nat) => some (Step.mk (some kind) length modes)
  let skip := fun (length : Nat) => some (Step.mk none length modes)
  match t with
  | [] => none
  | c :: rest =>
    if isBlank c then skip (t.takeWhile isBlank).length
    else if Text.startsWith t "?>" then token .textSection (2 + textLength (t.drop 2))
    else if Text.startsWith t "//" || (c = '#' && !Text.opensWith rest '[') then
      skip (1 + lineCommentLength rest)
    else if Text.startsWith t "/*" then
      (blockCommentLength? (t.drop 2)).bind fun n => skip (2 + n)
    else if c = '\'' then
      (quotedLength? c rest).bind fun n => token .string (1 + n)
    else if c = '"' || c.val == 96 then
      some ⟨some .templateStart, 1, .quoted c :: modes⟩
    else if (c = 'b' || c = 'B') && Text.opensWith rest '\'' then
      (quotedLength? '\'' (rest.drop 1)).bind fun n => token .string (2 + n)
    else if (c = 'b' || c = 'B') && Text.opensWith rest '"' then
      some ⟨some .templateStart, 2, .quoted '"' :: modes⟩
    else if Text.startsWith t "<<<" then
      match heredocStart? (t.drop 3) with
      | some start =>
        let length := 3 + start.length
        if start.isTemplate then
          match heredocEnd? start.label (t.drop length) with
          | some n => token .string (length + n)
          | none => some ⟨some .templateStart, length, .heredoc start.label :: modes⟩
        else
          (nowdocLength? start.label true (t.drop length)).bind fun n => token .string (length + n)
      | none => none
    else if c = '$' && rest.head?.any isNameStart then
      token .variable (1 + (rest.takeWhile isNameChar).length)
    else if isNameStart c || (c = '\\' && rest.head?.any isNameStart) then
      let length := if c = '\\' then 1 + nameLength rest else nameLength t
      token (.name (t.take length)) length
    else if c.isAsciiDigit || (c = '.' && rest.head?.any CodePoint.isAsciiDigit) then
      token .number (numberLength t)
    else if c = '\x7b' then some ⟨some (.sign "\x7b"), 1, .code :: modes⟩
    else if c = '\x7d' then some ⟨some (.sign "\x7d"), 1, modes.drop 1⟩
    else
      match (if c = '(' then castLength? t else none) with
      | some n => token .cast n
      | none =>
        match signs.find? fun s : String => Text.startsWith t s with
        | some s => token (.sign s) s.length
        | none => none

/-- One step in a string with variable parts; `isEnd` gives the length of its end, if it ends here. -/
def templateStep (modes : List Mode) (t : Text) (isEnd : Option Nat) : Option Step :=
  match isEnd with
  | some n => some ⟨some .templateEnd, n, modes.drop 1⟩
  | none =>
    match t with
    | [] => none
    | c :: rest =>
      if c = '\\' then
        let width := if rest.isEmpty || Text.opensWith rest '\n' || Text.opensWith rest '\r' then 1 else 2
        some ⟨none, width, modes⟩
      else if c = '\x7b' && Text.opensWith rest '$' then
        some ⟨some (.sign "\x7b"), 1, .part :: modes⟩
      else if c = '$' && Text.opensWith rest '\x7b' then
        some ⟨some (.sign "$\x7b"), 2, .part :: modes⟩
      else if c = '$' && rest.head?.any isNameStart then
        (plainPartLength? t).map fun n => ⟨none, n, modes⟩
      else some ⟨none, 1, modes⟩

/-- The end of a heredoc after a line feed. -/
private def heredocEndAfterLine? (label : Text) : Text → Option Nat
  | [] => none
  | c :: rest =>
    if c = '\n' then (heredocEnd? label rest).map (· + 1)
    else if c = '\r' && Text.opensWith rest '\n' then
      (heredocEnd? label (rest.drop 1)).map (· + 2)
    else none

def step (modes : List Mode) (t : Text) : Option Step :=
  match modes with
  | .quoted quote :: _ =>
    templateStep modes t (if t.opensWith quote then some 1 else none)
  | .heredoc label :: _ => templateStep modes t (heredocEndAfterLine? label t)
  | _ => codeStep modes t

/-- The tokens of the rest of a source, after those that have been found, which are in reverse. -/
def tokensFrom : (fuel : Nat) → (offset line : Nat) → List Mode → List Token → Text →
    Option (List Token)
  | 0, _, _, _, _, _ => none
  | fuel + 1, offset, line, modes, found, t =>
    if t.isEmpty then
      if modes.all (· == .code) then some found.reverse else none
    else
      match step modes t with
      | none => none
      | some s =>
        if s.length = 0 then none
        else
          let consumed := t.take s.length
          let newLine := line + consumed.count ('\n' : CodePoint)
          let stop := offset + s.length
          let found := match s.kind with
            | some kind => ⟨kind, offset, stop, line, newLine⟩ :: found
            | none => found
          tokensFrom fuel stop newLine s.modes found (t.drop s.length)

/-- The tokens of a source. Text before the first opening mark is passed over. -/
def tokens? (source : Text) : Option (List Token) :=
  let lead := textLength source
  let line := (source.take lead).count ('\n' : CodePoint)
  tokensFrom (source.length + 1) lead line [.code] [] (source.drop lead)

end DocRepair.Php
