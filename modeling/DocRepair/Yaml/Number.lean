import DocRepair.Number.Binary64
import DocRepair.Text.Blank
import DocRepair.Text.LetterCase
import DocRepair.Yaml.Fault
import DocRepair.Yaml.Tag

namespace DocRepair.Yaml

/-- A text without bars. -/
def dropBars (t : Text) : Text := t.filter fun c : CodePoint => c != '_'

/-- Whether a number is negative, and its text without the sign; there has to be something. -/
def splitSign (t : Text) : Except Fault (Bool × Text) :=
  if t.isEmpty then .error .emptyNumber else .ok (t.opensWith '-', dropSign t)

def digitIn? (base : Nat) (c : CodePoint) : Option Nat :=
  (c.decimal? <|> c.hex?).filter (· < base)

/-- The letter that may stand after a zero before digits of a base. -/
def baseLetter (base : Nat) : Option Char :=
  if base = 2 then some 'b' else if base = 8 then some 'o' else if base = 16 then some 'x' else none

/-- A text without the zero and the letter of a base. -/
def dropBaseMark (base : Nat) (t : Text) : Text :=
  match t, baseLetter base with
  | zero :: letter :: rest, some mark =>
    if zero == '0' && letter.lower == CodePoint.ofChar mark then rest else t
  | _, _ => t

/-- Reads an integer in a base: blanks around it and a sign do not matter. -/
def integerIn (base : Nat) (t : Text) : Except Fault Int :=
  let body := t.strip
  let digits := dropBaseMark base (dropSign body)
  let value := if digits.isEmpty then none
    else digits.foldlM (fun n c => (digitIn? base c).map (n * base + ·)) 0
  match value with
  | none => .error (.notInteger base t)
  | some n =>
    if base = 10 && maxIntegerDigits < digits.length then .error (.longInteger digits.length)
    else .ok (if body.opensWith '-' then -(n : Int) else n)

def integerValue (text : Text) : Except Fault Int := do
  let (negative, t) ← splitSign (dropBars text)
  let size ←
    if t == ("0" : Text) then pure 0
    else if t.startsWith "0b" then integerIn 2 (t.drop 2)
    else if t.startsWith "0x" then integerIn 16 (t.drop 2)
    else if t.isEmpty then throw .emptyNumber
    else if t.opensWith '0' then integerIn 8 t
    else if t.contains ':' then do
      let parts ← (t.splitAt ':').mapM (integerIn 10)
      pure (parts.foldl (fun n part => n * 60 + part) 0)
    else integerIn 10 t
  return if negative then -size else size

def decimalDigits (t : Text) : List Nat × Text :=
  let digits := t.takeWhile CodePoint.isDecimal
  (digits.filterMap CodePoint.decimal?, t.drop digits.length)

/-- An exponent up to the end of a text. -/
def exponent? (t : Text) : Option Int :=
  match t with
  | [] => some 0
  | e :: rest =>
    if e == 'e' || e == 'E' then
      let (digits, after) := decimalDigits (dropSign rest)
      let size : Int := (digits.foldl (fun n d => n * 10 + d) 0 : Nat)
      if digits.isEmpty || !after.isEmpty then none
      else some (if Text.opensWith rest '-' then -size else size)
    else none

/-- A decimal number without blanks. -/
def decimal? (t : Text) : Option Binary64 :=
  let negative := t.opensWith '-'
  let t := dropSign t
  if t == ("inf" : Text) || t == ("infinity" : Text) then some (.infinite negative)
  else if t == ("nan" : Text) then some .nan
  else
    let (whole, rest) := decimalDigits t
    let (fraction, rest) := if rest.opensWith '.' then decimalDigits (rest.drop 1) else ([], rest)
    if whole.isEmpty && fraction.isEmpty then none
    else (exponent? rest).map fun e =>
      .ofDecimal negative ((whole ++ fraction).foldl (fun n d => n * 10 + d) 0) (e - fraction.length)

/-- Reads a number; blanks around it do not matter. -/
def readReal (t : Text) : Except Fault Binary64 :=
  match decimal? t.strip with
  | some x => .ok x
  | none => .error (.notReal t)

/-- A sum of parts, each of them counting sixtieths of the one before it. -/
def sixtieths (parts : List Binary64) : Binary64 :=
  (parts.reverse.foldl (fun (sum, unit) part => (sum.add (part.scale unit), unit * 60))
    (Binary64.ofDecimal false 0 0, 1)).1

def realValue (text : Text) : Except Fault Binary64 := do
  let (negative, t) ← splitSign (dropBars text).lower
  let size ←
    if t == (".inf" : Text) then pure (.infinite false)
    else if t == (".nan" : Text) then pure .nan
    else if t.contains ':' then do
      let parts ← (t.splitAt ':').mapM readReal
      pure (sixtieths parts)
    else readReal t
  return if negative then size.neg else size

def truthValue (word : Text) : Except Fault Bool :=
  let lowered := word.lower
  if (["yes", "true", "on"] : List String).any (Text.ofString · == lowered) then .ok true
  else if (["no", "false", "off"] : List String).any (Text.ofString · == lowered) then .ok false
  else .error (.notTruth lowered)

def digitsNumber (t : Text) : Nat := t.foldl (fun n c => n * 10 + (c.decimal?.getD 0)) 0

/-- The text of a moment; a line feed at its end does not count. -/
def momentText (text : Text) : Except Fault Text :=
  let t := if text.getLast? == some '\n' then text.dropLast else text
  match writtenMoment? t with
  | none => .error .notMoment
  | some m =>
    let day : Day := ⟨digitsNumber m.year, digitsNumber m.month, digitsNumber m.day⟩
    match m.time with
    | none => (day.check.map fun _ => day.text).mapError .moment
    | some w =>
      let micros := digitsNumber ((w.fraction ++ List.replicate 6 ('0' : CodePoint)).take 6)
      let time : ClockTime :=
        ⟨digitsNumber w.hour, digitsNumber w.minute, digitsNumber w.second, micros⟩
      let offset : Option Int := match w.offset with
        | .none => none
        | .zulu => some 0
        | .hours negative hour minute =>
          let size : Int := digitsNumber hour * 60 + digitsNumber minute
          some (if negative then -size else size)
      let checked : Except MomentFault Text := do
        checkOffset (offset.getD 0)
        day.check
        time.check
        return day.text ++ " " ++ time.text ++ ((offset.map offsetSuffix).getD [])
      checked.mapError .moment

end DocRepair.Yaml
