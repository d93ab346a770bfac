import DocRepair.Datum
import DocRepair.Yaml.Lexer
import DocRepair.Yaml.Node
import DocRepair.Yaml.Number

namespace DocRepair.Yaml

/-- The value of a code point of base 64. -/
def base64? (c : CodePoint) : Option Nat :=
  if c.inRange 'A' 'Z' then some (c.val - 65)
  else if c.inRange 'a' 'z' then some (c.val - 97 + 26)
  else if c.inRange '0' '9' then some (c.val - 48 + 52)
  else if c == '+' then some 62
  else if c == '/' then some 63
  else none

/-- The digits of base 64 up to the padding that completes them, all else being passed over;
nothing if they are not complete. `count` digits have been read since the last complete group. -/
def base64Digits? : (count pads : Nat) → Text → Option (List Nat)
  | count, _, [] => if count = 0 then some [] else none
  | count, pads, c :: rest =>
    if c == '=' then
      if 2 ≤ count && 4 ≤ count + pads + 1 then some []
      else base64Digits? count (if 2 ≤ count then pads + 1 else pads) rest
    else
      match base64? c with
      | none => base64Digits? count pads rest
      | some d => (base64Digits? ((count + 1) % 4) 0 rest).map (d :: ·)

def base64Bytes : List Nat → List UInt8
  | a :: b :: c :: d :: rest =>
    UInt8.ofNat (a * 4 + b / 16) :: UInt8.ofNat (b % 16 * 16 + c / 4) ::
      UInt8.ofNat (c % 4 * 64 + d) :: base64Bytes rest
  | [a, b, c] => [UInt8.ofNat (a * 4 + b / 16), UInt8.ofNat (b % 16 * 16 + c / 4)]
  | [a, b] => [UInt8.ofNat (a * 4 + b / 16)]
  | _ => []

/-- The bytes of a text in base 64. -/
def binaryValue (t : Text) : Except Fault (List UInt8) :=
  if t.any fun c => 0x80 ≤ c.val then .error .malformed
  else
    match base64Digits? 0 0 t with
    | some digits => .ok (base64Bytes digits)
    | none => .error .malformed

def canBeKey : Datum → Bool
  | .list _ | .set _ | .map _ => false
  | .pair a b => canBeKey a && canBeKey b
  | _ => true

/-- The mapping of entries, whose keys have to be able to be keys; the last value of a key counts. -/
def mappingOf (entries : List (Datum × Datum)) : Except Fault (List (Datum × Datum)) :=
  if entries.all fun (k, _) => canBeKey k then
    .ok (entries.foldl (fun found (k, v) => Datum.put k v found) [])
  else .error .malformed

def scalarValue (tag : Tag) (value : Text) : Except Fault Datum :=
  match tag with
  | .null => .ok .null
  | .bool => (truthValue value).map .bool
  | .int => (integerValue value).map .int
  | .float => (realValue value).map .real
  | .timestamp => (momentText value).map .moment
  | .str => .ok (.text value)
  | .binary => (binaryValue value).map .bytes
  | .seq | .map | .omap | .pairs | .set | .merge | .main | .other => .error .malformed

def Node.isMerge : Node → Bool
  | .scalar .merge _ | .sequence .merge _ | .mapping .merge _ => true
  | _ => false

/-- Whether the value of a node is a collection, which can be no key. -/
def Node.isCollection : Node → Bool
  | .sequence .seq _ | .sequence .omap _ | .sequence .pairs _ | .mapping .map _ | .mapping .set _ =>
    true
  | _ => false

mutual

/-- The text of a node that counts as a scalar: of a mapping, the text of its main value. -/
def Node.scalarText? : Node → Option Text
  | .scalar _ value => some value
  | .sequence _ _ => none
  | .mapping _ entries => Node.mainText? entries

def Node.mainText? : List (Node × Node) → Option Text
  | [] => none
  | (.scalar .main _, value) :: _ => value.scalarText?
  | _ :: rest => Node.mainText? rest

end

mutual

def Node.value : Node → Except Fault Datum
  | .scalar tag text => scalarValue tag text
  | .sequence tag items =>
    match tag with
    | .seq => do return .list (← Node.values items)
    | .omap | .pairs => do return .list (← Node.pairValues items)
    | _ => .error .malformed
  | .mapping tag entries =>
    match tag with
    | .map => do
      let (merged, own) ← Node.entryValues entries
      return .map (← mappingOf (merged ++ own))
    | .set => do
      let (merged, own) ← Node.entryValues entries
      return .set ((← mappingOf (merged ++ own)).map (·.1))
    | _ =>
      match Node.mainText? entries with
      | some text => scalarValue tag text
      | none => .error .malformed

def Node.values : List Node → Except Fault (List Datum)
  | [] => .ok []
  | node :: rest => do
    let value ← node.value
    return value :: (← Node.values rest)

/-- The values of mappings with one entry each, as pairs. -/
def Node.pairValues : List Node → Except Fault (List Datum)
  | [] => .ok []
  | .mapping _ [(k, v)] :: rest => do
    let key ← k.value
    let value ← v.value
    return .pair key value :: (← Node.pairValues rest)
  | _ :: _ => .error .malformed

/-- The values of entries: those that are merged, and those of the mapping itself. -/
def Node.entryValues : List (Node × Node) → Except Fault (List (Datum × Datum) × List (Datum × Datum))
  | [] => .ok ([], [])
  | (k, v) :: rest => do
    if k.isMerge then
      let found ← v.mergeValues
      let (merged, own) ← Node.entryValues rest
      return (found ++ merged, own)
    else
      if k.isCollection then throw .malformed
      let key ← match k with
        | .scalar .main text => pure (Datum.text text)
        | _ => k.value
      let value ← v.value
      let (merged, own) ← Node.entryValues rest
      return (merged, (key, value) :: own)

/-- The entries that a node merges into another: those of a mapping, or of several mappings, of
which the first ones win. -/
def Node.mergeValues : Node → Except Fault (List (Datum × Datum))
  | .mapping _ entries => do
    let (merged, own) ← Node.entryValues entries
    return merged ++ own
  | .sequence _ items => do return (← Node.mergeAll items).reverse.flatten
  | .scalar _ _ => .error .malformed

/-- The entries of several mappings that are merged. -/
def Node.mergeAll : List Node → Except Fault (List (List (Datum × Datum)))
  | [] => .ok []
  | .mapping _ entries :: rest => do
    let (merged, own) ← Node.entryValues entries
    return (merged ++ own) :: (← Node.mergeAll rest)
  | _ :: _ => .error .malformed

end

/-- The value of a document; an empty one has none. -/
def read (document : Text) : Except Fault Datum := do
  match ← Node.ofTokens (← tokens document) with
  | none => return .null
  | some node => node.value

end DocRepair.Yaml
