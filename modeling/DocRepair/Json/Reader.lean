import DocRepair.Datum
import DocRepair.Number.Integer
import DocRepair.Text.Search

/-!
Reading JSON texts, with the place of the first fault.

Besides the standard's values the reader takes `NaN`, `Infinity` and `-Infinity`. The last value of
a key counts, at the place where the key appeared first.
-/

namespace DocRepair.Json

/-- Why a text is not JSON. -/
inductive Fault where
  | value
  | propertyName
  | colon
  | comma
  | unterminatedString
  | controlCharacter
  | escape
  | unicodeEscape
  | extraData
  | byteOrderMark
  deriving DecidableEq, Repr

def Fault.text : Fault → Text
  | .value => "Expecting value"
  | .propertyName => "Expecting property name enclosed in double quotes"
  | .colon => "Expecting ':' delimiter"
  | .comma => "Expecting ',' delimiter"
  | .unterminatedString => "Unterminated string starting at"
  | .controlCharacter => "Invalid control character at"
  | .escape => "Invalid \\escape"
  | .unicodeEscape => "Invalid \\uXXXX escape"
  | .extraData => "Extra data"
  | .byteOrderMark => "Unexpected UTF-8 BOM (decode using utf-8-sig)"

/-- Why reading fails. -/
inductive ReadError where
  | fault (what : Fault) (place : Nat)
  /-- An integer has more digits than are converted. -/
  | longInteger (digits : Nat)
  deriving DecidableEq, Repr

/-- The message of an error: a fault is placed by line, column and offset. -/
def ReadError.message (document : Text) : ReadError → Text
  | .fault what place =>
    let before := document.take place
    let line := before.count ('\n' : CodePoint) + 1
    let column := (before.reverse.takeWhile fun c => c != ('\n' : CodePoint)).length + 1
    what.text ++ ": line " ++ Text.ofNat line ++ " column " ++ Text.ofNat column ++
      " (char " ++ Text.ofNat place ++ ")"
  | .longInteger digits => longIntegerText digits

/-- What is left to read, and its place in the document. -/
structure Input where
  rest : Text
  place : Nat

namespace Input

/-- The input after some code points. -/
def skip (i : Input) (n : Nat) : Input := ⟨i.rest.drop n, i.place + n⟩

/-- Blanks between the parts of a value. -/
def isBlank (c : CodePoint) : Bool :=
  c == ' ' || c == '\t' || c == '\n' || c == '\r'

/-- The input after the blanks at its start. -/
def skipBlanks (i : Input) : Input :=
  i.skip (i.rest.takeWhile isBlank).length

/-- Whether a code point comes next. -/
def at? (i : Input) (c : CodePoint) : Bool := i.rest.opensWith c

end Input

private def refuse {α : Type} (what : Fault) (place : Nat) : Except ReadError α :=
  .error (.fault what place)

/-- The code points that a letter after a backslash stands for. -/
def escaped? (c : CodePoint) : Option CodePoint :=
  if c = '"' || c = '\\' || c = '/' then some c
  else if c = 'b' then some (.ofNat 8)
  else if c = 'f' then some (.ofNat 12)
  else if c = 'n' then some '\n'
  else if c = 'r' then some '\r'
  else if c = 't' then some '\t'
  else none

/-- The number of four hexadecimal digits at the start of a text. -/
def fourHex? (t : Text) : Option Nat :=
  if t.length < 4 then none
  else (t.take 4).foldlM (fun n c => c.hex?.map (n * 16 + ·)) 0

/-- The value of a low surrogate that is spelled next, if one is. -/
private inductive LowHalf where
  | absent
  | broken
  | found (n : Nat)

private def lowHalf (rest : Text) : LowHalf :=
  if rest.length > 6 && rest.startsWith "\\u" then
    match fourHex? (rest.drop 2) with
    | none => .broken
    | some n => if 0xDC00 ≤ n ∧ n ≤ 0xDFFF then .found n else .absent
  else .absent

/-- Reads a string from the code point after its opening quote, which stands at `start`. -/
def readString (start : Nat) : (fuel : Nat) → (soFar : Text) → Input → Except ReadError (Text × Input)
  | 0, _, _ => refuse .unterminatedString start
  | fuel + 1, soFar, i =>
    match i.rest with
    | [] => refuse .unterminatedString start
    | c :: rest =>
      if c = '"' then .ok (soFar.reverse, i.skip 1)
      else if c = '\\' then
        match rest with
        | [] => refuse .unterminatedString start
        | d :: more =>
          if d = 'u' then
            if more.length ≤ 4 then refuse .unicodeEscape (i.place + 1)
            else
              match fourHex? more with
              | none => refuse .unicodeEscape (i.place + 1)
              | some n =>
                if 0xD800 ≤ n ∧ n ≤ 0xDBFF then
                  match lowHalf (more.drop 4) with
                  | .absent => readString start fuel (.ofNat n :: soFar) (i.skip 6)
                  | .broken => refuse .unicodeEscape (i.place + 7)
                  | .found low =>
                    let joined := 0x10000 + (n - 0xD800) * 0x400 + (low - 0xDC00)
                    readString start fuel (.ofNat joined :: soFar) (i.skip 12)
                else readString start fuel (.ofNat n :: soFar) (i.skip 6)
          else
            match escaped? d with
            | some e => readString start fuel (e :: soFar) (i.skip 2)
            | none => refuse .escape i.place
      else if c.val < 0x20 then refuse .controlCharacter i.place
      else readString start fuel (c :: soFar) (i.skip 1)

def digitsValue (digits : Text) : Nat :=
  digits.foldl (fun n c => n * 10 + (c.val - 48)) 0

private def spanDigits (t : Text) : Text × Text :=
  (t.takeWhile CodePoint.isAsciiDigit, t.dropWhile CodePoint.isAsciiDigit)

/-- The fraction of a number: a point with digits after it. -/
private def fraction? : Text → Option (Text × Text)
  | [] => none
  | c :: rest =>
    if c = '.' then
      match spanDigits rest with
      | ([], _) => none
      | found => some found
    else none

/-- The exponent of a number: its sign, its digits, and the count of code points. -/
private def exponent? : Text → Option (Bool × Text × Nat)
  | [] => none
  | c :: rest =>
    if c = 'e' || c = 'E' then
      let signed : Bool := Text.opensWith rest '-' || Text.opensWith rest '+'
      let digits := (spanDigits (if signed then rest.drop 1 else rest)).1
      if digits.isEmpty then none
      else some (Text.opensWith rest '-', digits, 1 + (if signed then 1 else 0) + digits.length)
    else none

def readNumber (i : Input) : Except ReadError (Datum × Input) :=
  let negative := i.at? '-'
  let body : Text := if negative then i.rest.drop 1 else i.rest
  let digits := if body.opensWith '0' then body.take 1 else (spanDigits body).1
  if digits.isEmpty then refuse .value i.place
  else
    let size := (if negative then 1 else 0) + digits.length
    let afterInteger := body.drop digits.length
    let (decimals, afterFraction, size) :=
      match fraction? afterInteger with
      | some (decimals, after) => (some decimals, after, size + 1 + decimals.length)
      | none => (none, afterInteger, size)
    let exponent := exponent? afterFraction
    if decimals.isNone && exponent.isNone then
      if digits.length > maxIntegerDigits then .error (.longInteger digits.length)
      else
        let n : Int := digitsValue digits
        .ok (.int (if negative then -n else n), i.skip size)
    else
      let decimals := decimals.getD []
      let (power, size) : Int × Nat :=
        match exponent with
        | some (down, e, n) =>
          ((if down then -1 else 1) * (digitsValue e : Int), size + n)
        | none => (0, size)
      .ok (.real (.ofDecimal negative (digitsValue (digits ++ decimals)) (power - decimals.length)),
        i.skip size)

def words : List (Text × Datum) :=
  [("null", .null), ("true", .bool true), ("false", .bool false), ("NaN", .real .nan),
    ("Infinity", .real (.infinite false)), ("-Infinity", .real (.infinite true))]

mutual

def readValue (fuel : Nat) (i : Input) : Except ReadError (Datum × Input) :=
  match fuel with
  | 0 => refuse .value i.place
  | fuel + 1 =>
    if i.at? '"' then do
      let (t, after) ← readString i.place (i.rest.length + 1) [] (i.skip 1)
      .ok (.text t, after)
    else if i.at? '\x7b' then
      let inside := (i.skip 1).skipBlanks
      if inside.at? '\x7d' then .ok (.map [], inside.skip 1)
      else readEntries fuel [] inside
    else if i.at? '[' then
      let inside := (i.skip 1).skipBlanks
      if inside.at? ']' then .ok (.list [], inside.skip 1)
      else readItems fuel [] inside
    else
      match words.find? fun (word, _) => i.rest.startsWith word with
      | some (word, value) => .ok (value, i.skip word.length)
      | none => readNumber i

/-- Reads the entries of an object after those that have been read. -/
def readEntries (fuel : Nat) (entries : List (Datum × Datum)) (i : Input) : Except ReadError (Datum × Input) :=
  match fuel with
  | 0 => refuse .propertyName i.place
  | fuel + 1 =>
    if !i.at? '"' then refuse .propertyName i.place
    else do
      let (key, afterKey) ← readString i.place (i.rest.length + 1) [] (i.skip 1)
      let colon := afterKey.skipBlanks
      if !colon.at? ':' then refuse .colon colon.place
      else
        let (value, afterValue) ← readValue fuel (colon.skip 1).skipBlanks
        let entries := Datum.put (.text key) value entries
        let next := afterValue.skipBlanks
        if next.at? '\x7d' then .ok (.map entries, next.skip 1)
        else if !next.at? ',' then refuse .comma next.place
        else readEntries fuel entries (next.skip 1).skipBlanks

/-- Reads the items of an array after those that have been read, which are in reverse. -/
def readItems (fuel : Nat) (items : List Datum) (i : Input) : Except ReadError (Datum × Input) :=
  match fuel with
  | 0 => refuse .value i.place
  | fuel + 1 => do
    let (value, afterValue) ← readValue fuel i
    let next := afterValue.skipBlanks
    if next.at? ']' then .ok (.list (value :: items).reverse, next.skip 1)
    else if !next.at? ',' then refuse .comma next.place
    else readItems fuel (value :: items) (next.skip 1).skipBlanks

end

/-- Reads a whole document. -/
def read (document : Text) : Except ReadError Datum :=
  if document.opensWith (.ofNat 0xFEFF) then refuse .byteOrderMark 0
  else do
    let (value, after) ← readValue (document.length + 2) (Input.mk document 0).skipBlanks
    let after := after.skipBlanks
    if after.rest.isEmpty then .ok value else refuse .extraData after.place

end DocRepair.Json
