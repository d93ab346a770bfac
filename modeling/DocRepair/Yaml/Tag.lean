import DocRepair.Text.Digit
import DocRepair.Text.Search

namespace DocRepair.Yaml

/-- What kind of value a node stands for. -/
inductive Tag where
  | null
  | bool
  | int
  | float
  | timestamp
  | str
  | binary
  | seq
  | map
  | omap
  | pairs
  | set
  /-- The key that merges other mappings. -/
  | merge
  /-- The key of the main value of a mapping. -/
  | main
  /-- A tag that stands for nothing known. -/
  | other
  deriving DecidableEq, Repr

/-- The tags that are known, with their names. -/
def knownTags : List (Text × Tag) :=
  [("null", .null), ("bool", .bool), ("int", .int), ("float", .float), ("timestamp", .timestamp),
    ("str", .str), ("binary", .binary), ("seq", .seq), ("map", .map), ("omap", .omap),
    ("pairs", .pairs), ("set", .set), ("merge", .merge), ("value", .main)]

def knownTagStart : Text := "tag:yaml.org,2002:"

def Tag.ofText (t : Text) : Tag :=
  if t.startsWith knownTagStart then (knownTags.lookup (t.drop knownTagStart.length)).getD .other
  else .other

/-! Forms of plain scalars -/

/-- A text without a sign at its start. -/
def dropSign (t : Text) : Text :=
  match t with
  | c :: rest => if c == '-' || c == '+' then rest else t
  | [] => []

/-- Whether a text is not empty and made of a class of code points. -/
def isRun (p : CodePoint → Bool) (t : Text) : Bool := !t.isEmpty && t.all p

private def isDigitOrBar (c : CodePoint) : Bool := c.isAsciiDigit || c == '_'

def isDigits (t : Text) : Bool :=
  t.head?.any CodePoint.isAsciiDigit && t.all isDigitOrBar

/-- Whether a text is a number below sixty, of one or two digits. -/
def isSixtieth (t : Text) : Bool :=
  match t with
  | [a] => a.isAsciiDigit
  | [a, b] => a.inRange '0' '5' && b.isAsciiDigit
  | _ => false

/-- Whether a text is the exponent of a number, or empty. -/
def isExponent (t : Text) : Bool :=
  match t with
  | [] => true
  | e :: sign :: digits =>
    (e == 'e' || e == 'E') && (sign == '-' || sign == '+') && isRun CodePoint.isAsciiDigit digits
  | _ => false

/-- Whether a text is a fraction without its point, perhaps with an exponent. -/
def isFraction (t : Text) : Bool :=
  isExponent (t.dropWhile isDigitOrBar)

/-- Whether a plain scalar is a truth value. -/
def isTruth (t : Text) : Bool :=
  (["yes", "Yes", "YES", "no", "No", "NO", "true", "True", "TRUE", "false", "False", "FALSE", "on",
    "On", "ON", "off", "Off", "OFF"] : List String).any fun w => Text.ofString w == t

/-- Whether a plain scalar is nothing. -/
def isNull (t : Text) : Bool :=
  (["", "~", "null", "Null", "NULL"] : List String).any fun w => Text.ofString w == t

/-- Whether a plain scalar is an integer. -/
def isInteger (t : Text) : Bool :=
  match dropSign t with
  | [] => false
  | c :: rest =>
    if c == '0' then
      match rest with
      | [] => true
      | d :: digits =>
        (d == 'b' && isRun (fun x => x == '0' || x == '1' || x == '_') digits) ||
          (d == 'x' && isRun (fun x => x.hex?.isSome || x == '_') digits) ||
          rest.all fun x => x.inRange '0' '7' || x == '_'
    else
      match Text.splitAt ':' (c :: rest) with
      | first :: parts => isDigits first && parts.all isSixtieth
      | [] => false

/-- Whether a plain scalar is a number with a point. -/
def isReal (t : Text) : Bool :=
  let unsigned := dropSign t
  let word := fun (words : List String) (s : Text) => words.any fun w => Text.ofString w == s
  match unsigned.cut? "." with
  | none => false
  | some (whole, fraction) =>
    if whole.isEmpty then
      word ["inf", "Inf", "INF"] fraction ||
        (unsigned == t && (word ["nan", "NaN", "NAN"] fraction ||
          (fraction.head?.any CodePoint.isAsciiDigit && isFraction fraction)))
    else
      match Text.splitAt ':' whole with
      | [digits] => isDigits digits && isFraction fraction
      | first :: parts => isDigits first && parts.all isSixtieth && fraction.all isDigitOrBar
      | [] => false

/-! Moments -/

/-- The digits at the start of a text, at least and at most so many, and what follows. -/
def takeDigits? (least most : Nat) (t : Text) : Option (Text × Text) :=
  let digits := (t.take most).takeWhile CodePoint.isAsciiDigit
  if least ≤ digits.length then some (digits, t.drop digits.length) else none

/-- What follows a given code point at the start of a text. -/
def after? (c : CodePoint) (t : Text) : Option Text :=
  match t with
  | x :: rest => if x = c then some rest else none
  | [] => none

inductive WrittenOffset where
  | none
  | zulu
  | hours (negative : Bool) (hour minute : Text)
  deriving DecidableEq, Repr

structure WrittenTime where
  hour : Text
  minute : Text
  second : Text
  fraction : Text
  offset : WrittenOffset
  deriving DecidableEq, Repr

structure WrittenMoment where
  year : Text
  month : Text
  day : Text
  time : Option WrittenTime
  deriving DecidableEq, Repr

/-- Reads an offset up to the end of a text. -/
def writtenOffset? (t : Text) : Option WrittenOffset :=
  match t.dropWhile fun c : CodePoint => c == ' ' || c == '\t' with
  | [] => if t.isEmpty then some .none else none
  | c :: rest =>
    if c == 'Z' then (if rest.isEmpty then some .zulu else none)
    else if c == '-' || c == '+' then do
      let (hour, rest) ← takeDigits? 1 2 rest
      match rest with
      | [] => some (.hours (c == '-') hour [])
      | _ => do
        let (minute, rest) ← takeDigits? 2 2 (← after? ':' rest)
        if rest.isEmpty then some (.hours (c == '-') hour minute) else none
    else none

/-- Reads a time up to the end of a text. -/
def writtenTime? (t : Text) : Option WrittenTime := do
  let (hour, t) ← takeDigits? 1 2 t
  let (minute, t) ← takeDigits? 2 2 (← after? ':' t)
  let (second, t) ← takeDigits? 2 2 (← after? ':' t)
  let (fraction, t) := match after? '.' t with
    | some rest =>
      let digits := rest.takeWhile CodePoint.isAsciiDigit
      (digits, rest.drop digits.length)
    | none => ([], t)
  return ⟨hour, minute, second, fraction, ← writtenOffset? t⟩

/-- The blank or letter between a day and a time, and what follows. -/
def dayTimeGap? (t : Text) : Option Text :=
  match t with
  | [] => none
  | c :: rest =>
    if c == 'T' || c == 't' then some rest
    else if c == ' ' || c == '\t' then
      some (rest.dropWhile fun x : CodePoint => x == ' ' || x == '\t')
    else none

def writtenMoment? (t : Text) : Option WrittenMoment := do
  let (year, t) ← takeDigits? 4 4 t
  let (month, t) ← takeDigits? 1 2 (← after? '-' t)
  let (day, t) ← takeDigits? 1 2 (← after? '-' t)
  if t.isEmpty then return ⟨year, month, day, none⟩
  else return ⟨year, month, day, some (← writtenTime? (← dayTimeGap? t))⟩

/-- Whether a plain scalar is a moment: a day alone has all its digits. -/
def isMoment (t : Text) : Bool :=
  match writtenMoment? t with
  | none => false
  | some m => m.time.isSome || (m.month.length == 2 && m.day.length == 2)

/-- The tag of a plain scalar. A line feed at its end does not count. -/
def Tag.ofPlain (text : Text) : Tag :=
  let t := if text.getLast? == some '\n' then text.dropLast else text
  if isTruth t then .bool
  else if isReal t then .float
  else if isInteger t then .int
  else if t == ("<<" : Text) then .merge
  else if isNull t && (text.isEmpty || !t.isEmpty) then .null
  else if isMoment t then .timestamp
  else if t == ("=" : Text) then .main
  else if t == ("!" : Text) || t == ("&" : Text) || t == ("*" : Text) then .other
  else .str

end DocRepair.Yaml
