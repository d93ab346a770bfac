import DocRepair.Datum
import DocRepair.Text.Quoted
import DocRepair.Text.Search

namespace DocRepair.Json

def writeCodePoint (c : CodePoint) : Text :=
  if c = '"' then "\\\""
  else if c = '\\' then "\\\\"
  else if c = '\n' then "\\n"
  else if c = '\r' then "\\r"
  else if c = '\t' then "\\t"
  else if c.val < 0x20 || c.isSurrogate || c.val == 0x7F || c.val == 0x85 || c.val == 0x2028 ||
      c.val == 0x2029 then
    "\\u" ++ hexDigits 4 c.val
  else [c]

def writeString (t : Text) : Text :=
  "\"" ++ t.flatMap writeCodePoint ++ "\""

mutual

def write : Datum → Text
  | .null => "null"
  | .bool b => if b then "true" else "false"
  | .int n => Text.ofInt n
  | .real x => x.toText
  | .text t | .moment t => writeString t
  | .bytes b => writeString (b.map fun x => .ofNat x.toNat)
  | .list items | .set items => "[" ++ writeItems items ++ "]"
  | .pair a b => "[" ++ write a ++ "," ++ write b ++ "]"
  | .map entries => "\x7b" ++ writeEntries entries ++ "\x7d"

def writeItems : List Datum → Text
  | [] => []
  | [item] => write item
  | item :: next :: rest => write item ++ "," ++ writeItems (next :: rest)

/-- The entries of a mapping, whose keys are texts. -/
def writeEntries : List (Datum × Datum) → Text
  | [] => []
  | [(k, v)] => write k ++ ":" ++ write v
  | (k, v) :: next :: rest => write k ++ ":" ++ write v ++ "," ++ writeEntries (next :: rest)

end

end DocRepair.Json
