import DocRepair.Text.Digit
import DocRepair.Text.Utf8

namespace DocRepair.Command

/-- Which escapes a command knows besides the letters and octal numbers that all of them know. -/
structure EscapeRules where
  /-- Hexadecimal numbers after the letters x and u. -/
  hexadecimal : Bool
  /-- The letter c ends the printing. -/
  stop : Bool
  /-- An octal number may have one more zero in front. -/
  leadingZero : Bool
  /-- A double quote stands for itself. -/
  quote : Bool
  deriving DecidableEq, Repr

def letterEscape? (c : CodePoint) : Option UInt8 :=
  (([('\\', 0x5C), ('a', 7), ('b', 8), ('e', 0x1B), ('f', 0xC), ('n', 0xA), ('r', 0xD), ('t', 9),
    ('v', 0xB)] : List (Char × UInt8)).find? fun (letter, _) => c == letter).map (·.2)

def isOctalDigit (c : CodePoint) : Bool := c.inRange '0' '7'

/-- Whether a code point is a hexadecimal digit. -/
def isHexDigit (c : CodePoint) : Bool :=
  c.inRange '0' '9' || c.inRange 'a' 'f' || c.inRange 'A' 'F'

/-- The number that digits spell in a base. -/
def digitsValue (base : Nat) (digits : Text) : Nat :=
  digits.foldl (fun n c => n * base + c.hex?.getD 0) 0

/-- The first digits of a text, up to a count. -/
def leadingDigits (isDigit : CodePoint → Bool) (most : Nat) (t : Text) : Text :=
  (t.takeWhile isDigit).take most

/-- The bytes for what follows a backslash, and how many code points it covers. -/
def EscapeRules.escape? (rules : EscapeRules) : Text → Option (List UInt8 × Nat)
  | [] => none
  | c :: rest =>
    if let some b := letterEscape? c then some ([b], 1)
    else if rules.quote && c == '"' then some ([0x22], 1)
    else if isOctalDigit c then
      let digits := leadingDigits isOctalDigit (if rules.leadingZero && c == '0' then 4 else 3)
        (c :: rest)
      some ([UInt8.ofNat (digitsValue 8 digits)], digits.length)
    else if rules.hexadecimal && (c == 'x' || c == 'u') then
      let digits := leadingDigits isHexDigit (if c == 'x' then 2 else 4) rest
      if digits.isEmpty then none
      else
        let value := digitsValue 16 digits
        some (if c == 'x' then [UInt8.ofNat value] else Utf8.encodeOne (.ofNat value),
          digits.length + 1)
    else none

structure Unescaped where
  bytes : List UInt8
  /-- Whether nothing may be printed after it. -/
  stopped : Bool := false
  deriving DecidableEq, Repr

/-- What is printed with bytes in front. -/
def Unescaped.after (front : List UInt8) (u : Unescaped) : Unescaped :=
  { u with bytes := front ++ u.bytes }

/-- Reads a text with escapes; `skip` code points of an escape that has been read are still to be
passed over. A backslash that begins no escape stands for itself. -/
def EscapeRules.unescapeFrom (rules : EscapeRules) : (skip : Nat) → Text → Unescaped
  | _, [] => ⟨[], false⟩
  | skip + 1, _ :: rest => unescapeFrom rules skip rest
  | 0, c :: rest =>
    if c == '\\' then
      if rules.stop && rest.head? == some 'c' then ⟨[], true⟩
      else
        match rules.escape? rest with
        | some (bytes, covered) => (unescapeFrom rules covered rest).after bytes
        | none => (unescapeFrom rules 0 rest).after [0x5C]
    else (unescapeFrom rules 0 rest).after (Utf8.encodeOne c)

def EscapeRules.unescape (rules : EscapeRules) (t : Text) : Unescaped :=
  rules.unescapeFrom 0 t

end DocRepair.Command
