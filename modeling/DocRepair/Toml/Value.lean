import DocRepair.Datum
import DocRepair.Json.Reader
import DocRepair.Moment
import DocRepair.Text.Digit
import DocRepair.Text.Search

namespace DocRepair.Toml

/-- Why a document gives no value. -/
inductive Fault where
  | malformed
  | longInteger (digits : Nat)
  deriving DecidableEq, Repr

/-- The message of a fault; there is none for a document that is not well-formed. -/
def Fault.message : Fault → Text
  | .malformed => []
  | .longInteger digits => longIntegerText digits

def isBlank (c : CodePoint) : Bool := c == ' ' || c == '\t'

/-- A text without blanks at its start. -/
def skipBlanks (t : Text) : Text := t.dropWhile isBlank

/-- Control characters, which may not stand in comments and texts. -/
def isControl (c : CodePoint) : Bool := (c.val < 0x20 && c != '\t') || c.val == 0x7F

/-- Control characters that may not stand in a text of several lines. -/
def isControlInLines (c : CodePoint) : Bool := isControl c && c != '\n'

/-- A text without a comment at its start. -/
def skipComment (t : Text) : Except Fault Text :=
  if t.opensWith '#' then
    let comment := t.takeWhile fun c : CodePoint => c != '\n'
    if comment.any isControl then .error .malformed else .ok (t.drop comment.length)
  else .ok t

/-! Texts -/

def escapeLetter? (c : CodePoint) : Option CodePoint :=
  if c == 'b' then some (.ofNat 0x8)
  else if c == 't' then some '\t'
  else if c == 'n' then some '\n'
  else if c == 'f' then some (.ofNat 0xC)
  else if c == 'r' then some '\r'
  else if c == '"' then some '"'
  else if c == '\\' then some '\\'
  else none

/-- The code point that so many hexadecimal digits give. -/
def hexCodePoint (width : Nat) (t : Text) : Except Fault (CodePoint × Text) :=
  let digits := t.take width
  match digits.foldlM (fun n c => c.hex?.map (n * 16 + ·)) 0 with
  | none => .error .malformed
  | some n =>
    if digits.length ≠ width then .error .malformed
    else if isLt : n < 0x110000 then
      let c : CodePoint := ⟨n, isLt⟩
      if c.isSurrogate then .error .malformed else .ok (c, t.drop width)
    else .error .malformed

/-- What follows a backslash at the end of a line: blanks and line breaks are left out. -/
def skipLineEnd (t : Text) : Except Fault Text :=
  match skipBlanks t with
  | [] => .ok []
  | c :: rest =>
    if c == '\n' then .ok (rest.dropWhile fun x => isBlank x || x == '\n') else .error .malformed

/-- Reads what follows a backslash; `lines` says whether the text may have several lines. -/
def readEscape (lines : Bool) (t : Text) : Except Fault (Text × Text) :=
  match t with
  | [] => .error .malformed
  | c :: rest =>
    if lines && (isBlank c || c == '\n') then (skipLineEnd t).map fun after => ([], after)
    else if c == 'u' then (hexCodePoint 4 rest).map fun (x, after) => ([x], after)
    else if c == 'U' then (hexCodePoint 8 rest).map fun (x, after) => ([x], after)
    else
      match escapeLetter? c with
      | some x => .ok ([x], rest)
      | none => .error .malformed

def tripleQuote : Text := "\"\"\""

def tripleApostrophe : Text := "'''"

/-- Reads a text with escapes after its opening quotes. -/
def readBasic (lines : Bool) : (fuel : Nat) → Text → Except Fault (Text × Text)
  | 0, _ => .error .malformed
  | _ + 1, [] => .error .malformed
  | fuel + 1, c :: rest =>
    if c == '"' && !lines then .ok ([], rest)
    else if c == '"' && tripleQuote.isPrefixOf (c :: rest) then .ok ([], rest.drop 2)
    else if c == '\\' then do
      let (found, after) ← readEscape lines rest
      let (others, after) ← readBasic lines fuel after
      return (found ++ others, after)
    else if (if lines then isControlInLines c else isControl c) then .error .malformed
    else do
      let (others, after) ← readBasic lines fuel rest
      return (c :: others, after)

/-- Reads a text without escapes up to its end mark. -/
def readLiteral (endMark : Text) (isIllegal : CodePoint → Bool) (t : Text) :
    Except Fault (Text × Text) :=
  match t.cut? endMark with
  | none => .error .malformed
  | some (found, after) => if found.any isIllegal then .error .malformed else .ok (found, after)

/-- Up to two marks right after the end of a text of several lines belong to it. -/
def extraMarks (mark : CodePoint) (found after : Text) : Text × Text :=
  let extra := (after.take 2).takeWhile (· == mark)
  (found ++ extra, after.drop extra.length)

/-- A text without a line feed at its start. -/
def dropLineFeed (t : Text) : Text := if t.opensWith '\n' then t.drop 1 else t

/-- Reads a text, which a quote or an apostrophe opens. -/
def readText (t : Text) : Except Fault (Text × Text) :=
  if t.startsWith tripleQuote then do
    let body := dropLineFeed (t.drop 3)
    let (found, after) ← readBasic true (body.length + 1) body
    return extraMarks '"' found after
  else if t.startsWith tripleApostrophe then do
    let (found, after) ← readLiteral tripleApostrophe isControlInLines (dropLineFeed (t.drop 3))
    return extraMarks '\'' found after
  else if t.opensWith '"' then readBasic false (t.length + 1) (t.drop 1)
  else readLiteral "'" isControl (t.drop 1)

/-! Keys -/

/-- Code points of a key without quotes. -/
def isKeyChar (c : CodePoint) : Bool :=
  c.inRange 'a' 'z' || c.inRange 'A' 'Z' || c.inRange '0' '9' || c == '-' || c == '_'

/-- Reads one part of a key; a text of several lines is none. -/
def readKeyPart (t : Text) : Except Fault (Text × Text) :=
  let bare := t.takeWhile isKeyChar
  if !bare.isEmpty then .ok (bare, t.drop bare.length)
  else if t.opensWith '"' then readBasic false (t.length + 1) (t.drop 1)
  else if t.opensWith '\'' then readLiteral "'" isControl (t.drop 1)
  else .error .malformed

/-- Reads a key with dots between its parts, and blanks after it. -/
def readKey : (fuel : Nat) → Text → Except Fault (List Text × Text)
  | 0, _ => .error .malformed
  | fuel + 1, t => do
    let (part, after) ← readKeyPart t
    let after := skipBlanks after
    if after.opensWith '.' then
      let (others, after) ← readKey fuel (skipBlanks (after.drop 1))
      return (part :: others, after)
    else return ([part], after)

/-! Moments -/

/-- Exactly so many digits, and what follows. -/
def digits? (count : Nat) (t : Text) : Option (Nat × Text) :=
  let digits := t.take count
  if digits.length = count && digits.all CodePoint.isAsciiDigit then
    some (digits.foldl (fun n c => n * 10 + (c.val - 48)) 0, t.drop count)
  else none

/-- What follows a given code point at the start of a text. -/
def after? (c : CodePoint) (t : Text) : Option Text :=
  match t with
  | x :: rest => if x = c then some rest else none
  | [] => none

/-- A number of two digits in a range, and what follows. -/
def twoDigits? (least most : Nat) (t : Text) : Option (Nat × Text) :=
  (digits? 2 t).filter fun (n, _) => least ≤ n && n ≤ most

/-- A time, and what follows. -/
def clockTime? (t : Text) : Option (ClockTime × Text) := do
  let (hour, t) ← twoDigits? 0 23 t
  let (minute, t) ← twoDigits? 0 59 (← after? ':' t)
  let (second, t) ← twoDigits? 0 59 (← after? ':' t)
  let fraction := ((after? '.' t).getD []).takeWhile CodePoint.isAsciiDigit
  if fraction.isEmpty then return (⟨hour, minute, second, 0⟩, t)
  else
    let micros := (fraction ++ List.replicate 6 ('0' : CodePoint)).take 6
    return (⟨hour, minute, second, micros.foldl (fun n c => n * 10 + (c.val - 48)) 0⟩,
      t.drop (fraction.length + 1))

/-- A day, and what follows. -/
def day? (t : Text) : Option (Day × Text) := do
  let (year, t) ← digits? 4 t
  let (month, t) ← twoDigits? 1 12 (← after? '-' t)
  let (day, t) ← twoDigits? 1 31 (← after? '-' t)
  return (⟨year, month, day⟩, t)

/-- The text of an offset, if one comes next, and what follows. -/
def offset (t : Text) : Text × Text :=
  match t with
  | [] => ([], [])
  | c :: rest =>
    if c == 'Z' || c == 'z' then (offsetSuffix 0, rest)
    else if c == '+' || c == '-' then
      let found := do
        let (hour, rest) ← twoDigits? 0 23 rest
        let (minute, rest) ← twoDigits? 0 59 (← after? ':' rest)
        let size : Int := hour * 60 + minute
        return (offsetSuffix (if c == '-' then -size else size), rest)
      found.getD ([], t)
    else ([], t)

/-- A time after a day, if one comes next, and what follows. -/
def timeOfDay? (t : Text) : Option (Text × Text) :=
  match t with
  | [] => none
  | c :: rest =>
    if c == 'T' || c == 't' || c == ' ' then
      (clockTime? rest).map fun (time, after) =>
        let (suffix, after) := offset after
        (time.text ++ suffix, after)
    else none

/-- A moment, if one comes next: the day has to exist. -/
def moment? (t : Text) : Option (Except Fault (Datum × Text)) :=
  match day? t with
  | some (day, after) =>
    match day.check with
    | .error _ => some (.error .malformed)
    | .ok _ =>
      match timeOfDay? after with
      | some (time, after) => some (.ok (.moment (day.text ++ " " ++ time), after))
      | none => some (.ok (.moment day.text, after))
  | none => (clockTime? t).map fun (time, after) => .ok (.moment time.text, after)

/-! Numbers -/

/-- Digits of a class with single bars between them, and what follows. -/
def barredDigits (p : CodePoint → Bool) : Text → Text × Text
  | [] => ([], [])
  | [c] => if p c then ([c], []) else ([], [c])
  | c :: d :: rest =>
    if p c then
      let (found, after) := barredDigits p (d :: rest)
      (c :: found, after)
    else if c == '_' && p d then barredDigits p (d :: rest)
    else ([], c :: d :: rest)

/-- Digits of a class, the first of which is no bar, and what follows. -/
def digitRun? (p : CodePoint → Bool) (t : Text) : Option (Text × Text) :=
  if t.head?.any p then some (barredDigits p t) else none

def valueIn (base : Nat) (digits : Text) : Nat :=
  digits.foldl (fun n c => n * base + c.hex?.getD 0) 0

/-- An integer in another base, if one comes next. -/
def basedInteger? (t : Text) : Option (Datum × Text) :=
  match t with
  | zero :: letter :: rest =>
    let found := fun (base : Nat) (p : CodePoint → Bool) =>
      (digitRun? p rest).map fun (digits, after) => (Datum.int (valueIn base digits), after)
    if zero != '0' then none
    else if letter == 'x' then found 16 (·.hex?.isSome)
    else if letter == 'b' then found 2 (CodePoint.inRange '0' '1')
    else if letter == 'o' then found 8 (CodePoint.inRange '0' '7')
    else none
  | _ => none

/-- A fraction after its point, if one comes next: its digits, and what follows. -/
def fractionPart (t : Text) : Text × Text :=
  match (after? '.' t).bind (digitRun? CodePoint.isAsciiDigit) with
  | some found => found
  | none => ([], t)

/-- An exponent, if one comes next, and what follows. -/
def exponentPart? (t : Text) : Option (Int × Text) :=
  match t with
  | [] => none
  | e :: rest =>
    if e == 'e' || e == 'E' then
      let negative := Text.opensWith rest '-'
      let unsigned := if negative || Text.opensWith rest '+' then rest.drop 1 else rest
      (digitRun? CodePoint.isAsciiDigit unsigned).map fun (digits, after) =>
        let size : Int := valueIn 10 digits
        (if negative then -size else size, after)
    else none

/-- A decimal number, if one comes next. -/
def decimal? (t : Text) : Option (Except Fault (Datum × Text)) := do
  let negative := t.opensWith '-'
  let unsigned : Text := if negative || t.opensWith '+' then t.drop 1 else t
  let (whole, after) ← if unsigned.opensWith '0' then some (unsigned.take 1, unsigned.drop 1)
    else digitRun? CodePoint.isAsciiDigit unsigned
  let (fraction, after) := fractionPart after
  let exponent := exponentPart? after
  match fraction.isEmpty, exponent with
  | true, none =>
    if maxIntegerDigits < whole.length then return .error (.longInteger whole.length)
    else
      let n : Int := valueIn 10 whole
      return .ok (.int (if negative then -n else n), after)
  | _, _ =>
    let (e, after) := exponent.getD (0, after)
    return .ok (.real (.ofDecimal negative (valueIn 10 (whole ++ fraction)) (e - fraction.length)),
      after)

def numberWords : List (Text × Binary64) :=
  [("inf", .infinite false), ("+inf", .infinite false), ("-inf", .infinite true), ("nan", .nan),
    ("+nan", .nan), ("-nan", .nan)]

/-- Reads a truth value, a moment or a number. -/
def readWord (t : Text) : Except Fault (Datum × Text) :=
  if t.startsWith "true" then .ok (.bool true, t.drop 4)
  else if t.startsWith "false" then .ok (.bool false, t.drop 5)
  else
    match moment? t with
    | some found => found
    | none =>
      match basedInteger? t with
      | some found => .ok found
      | none =>
        match decimal? t with
        | some found => found
        | none =>
          match numberWords.find? fun (word, _) => t.startsWith word with
          | some (word, x) => .ok (.real x, t.drop word.length)
          | none => .error .malformed

end DocRepair.Toml
