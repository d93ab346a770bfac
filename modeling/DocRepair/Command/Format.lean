import DocRepair.Command.Escapes
import DocRepair.Text.Search

namespace DocRepair.Command.Format

/-- A directive: how an argument is printed. -/
structure Directive where
  leftAligned : Bool
  zeroPadded : Bool
  /-- What stands in front of a number that is not negative. -/
  plus : Text
  width : Nat
  precision : Option Nat
  kind : CodePoint
  deriving Repr

inductive Piece where
  | bytes (b : List UInt8)
  | directive (d : Directive)
  /-- A directive that is not known, or breaks off. -/
  | invalid (written : Text)
  | stop
  deriving Repr

/-- A way of printing: the escapes of the format and those of an argument. -/
structure Dialect where
  format : EscapeRules
  argument : EscapeRules
  /-- The messages about a directive, an argument that is no number and one that is only partly
  one. -/
  invalidDirective : Text → Text
  notNumber : Text → Text
  partlyNumber : Text → Text

/-- Reads what follows a percent sign: the piece and how many code points it covers. -/
def directiveAt (t : Text) : Piece × Nat :=
  let flags := t.takeWhile fun c => c.isOneOf "-0+ #"
  let afterFlags : Text := t.drop flags.length
  let width := afterFlags.takeWhile fun c => c.inRange '0' '9'
  let afterWidth : Text := afterFlags.drop width.length
  let precision : Option Text :=
    if afterWidth.opensWith '.' then some ((afterWidth.drop 1).takeWhile fun c => c.inRange '0' '9')
    else none
  let afterPrecision : Text := afterWidth.drop ((precision.map (·.length + 1)).getD 0)
  let covered := t.length - afterPrecision.length
  match afterPrecision with
  | [] => (.invalid ("%" ++ t), covered)
  | kind :: _ =>
    if kind == '%' && covered == 0 then (.bytes [0x25], 1)
    else if kind.isOneOf "sbcdiuxXo" then
      (.directive {
        leftAligned := flags.contains '-'
        zeroPadded := flags.contains '0'
        plus := if flags.contains '+' then "+" else if flags.contains ' ' then " " else []
        width := digitsValue 10 width
        precision := precision.map (digitsValue 10)
        kind }, covered + 1)
    else (.invalid ("%" ++ t.take (covered + 1)), covered + 1)

def piecesFrom (rules : EscapeRules) : (skip : Nat) → Text → List Piece
  | _, [] => []
  | skip + 1, _ :: rest => piecesFrom rules skip rest
  | 0, c :: rest =>
    if c == '%' then
      let (piece, covered) := directiveAt rest
      piece :: piecesFrom rules covered rest
    else if c == '\\' then
      if rules.stop && rest.head? == some 'c' then [.stop]
      else
        match rules.escape? rest with
        | some (bytes, covered) => .bytes bytes :: piecesFrom rules covered rest
        | none => .bytes [0x5C] :: piecesFrom rules 0 rest
    else .bytes (Utf8.encodeOne c) :: piecesFrom rules 0 rest

/-- The number at the start of an argument, and what follows it. A quote stands for the number of
the code point after it. -/
def number (argument : Text) : Int × Text :=
  match argument with
  | q :: c :: rest =>
    if q == '\'' || q == '"' then (c.val, rest)
    else
      let negative := q == '-'
      let t : Text := if negative || q == '+' then c :: rest else argument
      let sign : Int := if negative then -1 else 1
      if (t.startsWith "0x" || t.startsWith "0X") && (t.drop 2).any isHexDigit then
        let digits := (t.drop 2).takeWhile isHexDigit
        (sign * digitsValue 16 digits, t.drop (2 + digits.length))
      else
        let octal := t.opensWith '0'
        let digits := t.takeWhile fun d => if octal then isOctalDigit d else d.inRange '0' '9'
        if digits.isEmpty then (0, argument)
        else (sign * digitsValue (if octal then 8 else 10) digits, t.drop digits.length)
  | [c] => if c.inRange '0' '9' then (digitsValue 10 [c], []) else (0, argument)
  | [] => (0, [])

def pad (d : Directive) (zeros : Bool) (front body : List UInt8) : List UInt8 :=
  let missing := d.width - (front.length + body.length)
  if d.leftAligned then front ++ body ++ List.replicate missing 0x20
  else if zeros then front ++ List.replicate missing 0x30 ++ body
  else List.replicate missing 0x20 ++ front ++ body

def digits (base : Nat) (n : Nat) : Text := (Nat.toDigits base n).map CodePoint.ofChar

/-- Prints a number. Kinds without a sign count a negative number from 2^64 down. -/
def printNumber (d : Directive) (n : Int) : List UInt8 :=
  let unsigned := (if n < 0 then n + 0x10000000000000000 else n).toNat
  let zeros := d.zeroPadded && d.precision.isNone
  let exact := fun (t : Text) => Utf8.encode (List.replicate (d.precision.getD 1 - t.length)
    ('0' : CodePoint) ++ t)
  if d.kind == 'd' || d.kind == 'i' then
    pad d zeros (Utf8.encode (if n < 0 then "-" else d.plus)) (exact (Text.ofNat n.natAbs))
  else
    let text := if d.kind == 'o' then digits 8 unsigned
      else if d.kind == 'x' then digits 16 unsigned
      else if d.kind == 'X' then (digits 16 unsigned).map fun c =>
        if c.inRange 'a' 'f' then .ofNat (c.val - 32) else c
      else digits 10 unsigned
    pad d zeros [] (exact text)

/-- What printing has produced so far. -/
structure Printed where
  output : List UInt8 := []
  errors : List Text := []
  /-- The arguments that have not been used. -/
  rest : List Text := []
  stopped : Bool := false
  deriving Repr

/-- Adds output in front. -/
def Printed.after (bytes : List UInt8) (p : Printed) : Printed :=
  { p with output := bytes ++ p.output }

/-- Prints one argument after a directive; the error, if there is one. -/
def printOne (dialect : Dialect) (d : Directive) (argument : Text) :
    List UInt8 × Option Text × Bool :=
  let cut := fun (bytes : List UInt8) => bytes.take (d.precision.getD bytes.length)
  if d.kind == 's' then (pad d false [] (cut (Utf8.encode argument)), none, false)
  else if d.kind == 'b' then
    let u := dialect.argument.unescape argument
    (pad d false [] (cut u.bytes), none, u.stopped)
  else if d.kind == 'c' then
    (pad d false [] (if argument.isEmpty then [0] else (Utf8.encode argument).take 1), none, false)
  else
    let (n, left) := number argument
    let error := if left.isEmpty then none
      else if left == argument then some (dialect.notNumber argument)
      else some (dialect.partlyNumber argument)
    (printNumber d n, error, false)

/-- Prints pieces with arguments; a missing argument is empty. -/
def fill (dialect : Dialect) : List Piece → List Text → Printed
  | [], arguments => { rest := arguments }
  | .stop :: _, _ => { stopped := true }
  | .invalid written :: _, _ => { errors := [dialect.invalidDirective written], stopped := true }
  | .bytes b :: pieces, arguments => (fill dialect pieces arguments).after b
  | .directive d :: pieces, arguments =>
    let (bytes, error, stopped) := printOne dialect d (arguments.head?.getD [])
    if stopped then { output := bytes, stopped := true }
    else
      let printed := fill dialect pieces arguments.tail
      { printed.after bytes with errors := error.toList ++ printed.errors }

/-- Uses the pieces again while arguments remain, which are fewer every time. -/
def fillAgain (dialect : Dialect) (pieces : List Piece) : (fuel : Nat) → List Text → Printed
  | 0, arguments => { rest := arguments }
  | fuel + 1, arguments =>
    let printed := fill dialect pieces arguments
    if printed.stopped || printed.rest.isEmpty || printed.rest.length == arguments.length then printed
    else
      let more := fillAgain dialect pieces fuel printed.rest
      { more.after printed.output with errors := printed.errors ++ more.errors }

/-- Prints arguments after a format. -/
def print (dialect : Dialect) (format : Text) (arguments : List Text) : Printed :=
  fillAgain dialect (piecesFrom dialect.format 0 format) (arguments.length + 1) arguments

end DocRepair.Command.Format
