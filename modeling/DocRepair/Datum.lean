import DocRepair.Number.Binary64
import DocRepair.Text.CodePoint

namespace DocRepair

/-- A decoded value. A mapping keeps its keys in order of first appearance. -/
inductive Datum where
  | null
  | bool (b : Bool)
  | int (n : Int)
  | real (x : Binary64)
  | text (t : Text)
  /-- A date or time, by its written form. -/
  | moment (t : Text)
  /-- Raw bytes. -/
  | bytes (b : List UInt8)
  | list (items : List Datum)
  /-- A set of values. -/
  | set (items : List Datum)
  /-- A pair inside an ordered list of pairs. -/
  | pair (first second : Datum)
  | map (entries : List (Datum × Datum))
  deriving Repr

instance : Inhabited Datum := ⟨.null⟩

namespace Datum

def text? : Datum → Option Text
  | .text t => some t
  | _ => none

/-- The entries of a value that is a mapping. -/
def map? : Datum → Option (List (Datum × Datum))
  | .map entries => some entries
  | _ => none

/-- Whether a value is a given text. -/
def isText (t : Text) : Datum → Bool
  | .text s => s == t
  | _ => false

/-- The value under a text in the entries of a mapping. -/
def lookup (entries : List (Datum × Datum)) (key : Text) : Option Datum :=
  (entries.find? fun (k, _) => k.isText key).map (·.2)

/-- The value under a text in a value that is a mapping. -/
def get? (d : Datum) (key : Text) : Option Datum :=
  d.map?.bind (lookup · key)

/-- The integer that a key counts as: truth values and whole numbers are integers. -/
private def keyInt? : Datum → Option Int
  | .bool b => some (if b then 1 else 0)
  | .int n => some n
  | .real x => x.toInt?
  | _ => none

def sameKey (a b : Datum) : Bool :=
  match keyInt? a, keyInt? b with
  | some m, some n => m == n
  | none, none =>
    match a, b with
    | .null, .null => true
    | .text s, .text t => s == t
    | .moment s, .moment t => s == t
    | .bytes s, .bytes t => s == t
    | .real x, .real y => x == y && x != .nan
    | _, _ => false
  | _, _ => false

/-- Gives a key of a mapping a value; a key that is present keeps its place and its form. -/
def put (key value : Datum) : List (Datum × Datum) → List (Datum × Datum)
  | [] => [(key, value)]
  | (k, v) :: rest => if sameKey k key then (k, value) :: rest else (k, v) :: put key value rest

/-- The mapping with texts as keys that a list of pairs describes. -/
def ofPairs (pairs : List (Text × Datum)) : Datum :=
  .map (pairs.foldl (fun entries (k, v) => put (.text k) v entries) [])

end Datum

end DocRepair
