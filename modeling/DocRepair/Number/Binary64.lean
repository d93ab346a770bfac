import DocRepair.Text.Search

/-!
Numbers with a fraction, held in the binary format of 64 bits, in exact integer arithmetic.

A decimal is read to the nearest number of the format, ties going to the even mantissa, and a
number is written with the fewest digits that read back as that number.
-/

namespace DocRepair

/-- A number of the format: `mantissa * 2 ^ exponent`, an infinity, or no number. -/
inductive Binary64 where
  | finite (negative : Bool) (mantissa : Nat) (exponent : Int)
  | infinite (negative : Bool)
  | nan
  deriving DecidableEq, Repr

namespace Binary64

/-- The quotient nearest to a fraction; a tie goes to the even one. -/
def roundDiv (num den : Nat) : Nat :=
  let q := num / den
  let twice := 2 * (num % den)
  if twice < den then q
  else if den < twice then q + 1
  else if q % 2 = 0 then q else q + 1

/-- A fraction with a power of two moved into it. -/
private def scaled (num den : Nat) (power : Int) : Nat × Nat :=
  if 0 ≤ power then (num, den * Nat.pow 2 power.toNat) else (num * Nat.pow 2 (-power).toNat, den)

def ofFraction (negative : Bool) (num den : Nat) : Binary64 :=
  if num = 0 then .finite negative 0 (-1074)
  else
    let guess : Int := (num.log2 : Int) - den.log2 - 52
    let (n, d) := scaled num den guess
    let guess := if n / d < Nat.pow 2 52 then guess - 1 else guess
    let exponent := max guess (-1074)
    let (n, d) := scaled num den exponent
    let q := roundDiv n d
    let (q, exponent) := if q = Nat.pow 2 53 then (Nat.pow 2 52, exponent + 1) else (q, exponent)
    if exponent > 971 then .infinite negative else .finite negative q exponent

/-- The number nearest to `digits * 10 ^ power`. -/
def ofDecimal (negative : Bool) (digits : Nat) (power : Int) : Binary64 :=
  let size : Int := (Nat.toDigits 10 digits).length + power
  if digits = 0 || size < -400 then .finite negative 0 (-1074)
  else if size > 400 then .infinite negative
  else if 0 ≤ power then ofFraction negative (digits * Nat.pow 10 power.toNat) 1
  else ofFraction negative digits (Nat.pow 10 (-power).toNat)

/-- Whether the fraction `num / den` is read as the number with a mantissa and an exponent. -/
private def readsAs (mantissa : Nat) (exponent : Int) (num den : Nat) : Bool :=
  ofFraction false num den == .finite false mantissa exponent

/-- The decimal `digits * 10 ^ power` as a fraction. -/
private def fraction (digits : Nat) (power : Int) : Nat × Nat :=
  if 0 ≤ power then (digits * Nat.pow 10 power.toNat, 1) else (digits, Nat.pow 10 (-power).toNat)

/-- The nearer of the two neighbours on the grid of a power of ten that read back. -/
private def onGrid? (mantissa : Nat) (exponent power : Int) : Option Nat :=
  let (num, den) := scaled mantissa 1 (-exponent)
  let (num, den) := if 0 ≤ power then (num, den * Nat.pow 10 power.toNat)
    else (num * Nat.pow 10 (-power).toNat, den)
  let below := num / den
  let reads := fun q =>
    let (n, d) := fraction q power
    readsAs mantissa exponent n d
  let nearest := roundDiv num den
  let other := if nearest = below then below + 1 else below
  if reads nearest then some nearest else if reads other then some other else none

/-- The power of ten of the first digit. -/
private def leadingPower (mantissa : Nat) (exponent : Int) : Int :=
  let (num, den) := scaled mantissa 1 (-exponent)
  if den ≤ num then ((Nat.toDigits 10 (num / den)).length : Int) - 1
  else
    match (List.range 400).find? fun k => den ≤ num * Nat.pow 10 (k + 1) with
    | some zeros => -(zeros : Int) - 1
    | none => -400

/-- The fewest digits that read back, and the power of ten of the last of them. -/
def shortest (mantissa : Nat) (exponent : Int) : Nat × Int :=
  let lead := leadingPower mantissa exponent
  ((List.range 17).findSome? fun n : Nat =>
    let power := lead - (n : Int)
    (onGrid? mantissa exponent power).map (·, power)).getD (0, 0)

/-- Digits without zeros at their end, and their power of ten. -/
private def trimZeros : (fuel : Nat) → Nat → Int → Nat × Int
  | 0, digits, power => (digits, power)
  | fuel + 1, digits, power =>
    if digits ≠ 0 ∧ digits % 10 = 0 then trimZeros fuel (digits / 10) (power + 1)
    else (digits, power)

/-- The text of a number: positional from 0.0001 up to 10^16, with an exponent of at least two
digits beyond. -/
def toText : Binary64 → Text
  | .nan => "nan"
  | .infinite negative => if negative then "-inf" else "inf"
  | .finite negative mantissa exponent =>
    let sign : Text := if negative then "-" else []
    if mantissa = 0 then sign ++ "0.0"
    else
      let (digits, power) := shortest mantissa exponent
      let (digits, power) := trimZeros 20 digits power
      let text := Text.ofNat digits
      let point : Int := text.length + power
      let zeros := fun n : Nat => List.replicate n ('0' : CodePoint)
      if point ≤ -4 || point > 16 then
        let e := point - 1
        let fractionPart : Text := if text.length = 1 then [] else '.' :: text.drop 1
        let digitsOfE := Text.ofNat e.natAbs
        let padded := zeros (2 - digitsOfE.length) ++ digitsOfE
        sign ++ text.take 1 ++ fractionPart ++ (if e < 0 then "e-" else "e+") ++ padded
      else if point ≤ 0 then sign ++ "0." ++ zeros (-point).toNat ++ text
      else if power ≥ 0 then sign ++ text ++ zeros power.toNat ++ ".0"
      else sign ++ text.take point.toNat ++ "." ++ text.drop point.toNat

/-- Whether a number is an integer, and which. -/
def toInt? : Binary64 → Option Int
  | .finite negative mantissa exponent =>
    let sign : Int := if negative then -1 else 1
    if 0 ≤ exponent then some (sign * (mantissa * Nat.pow 2 exponent.toNat : Nat))
    else
      let unit := Nat.pow 2 (-exponent).toNat
      if mantissa % unit = 0 then some (sign * (mantissa / unit : Nat)) else none
  | _ => none

def neg : Binary64 → Binary64
  | .finite negative mantissa exponent => .finite (!negative) mantissa exponent
  | .infinite negative => .infinite !negative
  | .nan => .nan

/-- The number nearest to `units * 2 ^ exponent`. -/
def ofUnits (units : Int) (exponent : Int) : Binary64 :=
  let (num, den) := scaled units.natAbs 1 (-exponent)
  ofFraction (units < 0) num den

private def signed (negative : Bool) (mantissa : Nat) : Int :=
  if negative then -(mantissa : Int) else mantissa

/-- The number nearest to a sum. -/
def add : Binary64 → Binary64 → Binary64
  | .finite s m e, .finite t n f =>
    let low := min e f
    ofUnits (signed s m * (Nat.pow 2 (e - low).toNat : Nat) +
      signed t n * (Nat.pow 2 (f - low).toNat : Nat)) low
  | .infinite s, .infinite t => if s = t then .infinite s else .nan
  | .infinite s, .finite _ _ _ => .infinite s
  | .finite _ _ _, .infinite t => .infinite t
  | .nan, _ | _, .nan => .nan

/-- The number nearest to a product with a natural number. -/
def scale (factor : Nat) : Binary64 → Binary64
  | .finite s m e => ofUnits (signed s (m * factor)) e
  | x => x

end Binary64

end DocRepair
