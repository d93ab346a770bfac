import DocRepair.Datum
import DocRepair.Text.Quoted
import DocRepair.Text.Search

namespace DocRepair.Json

def plainCodePoint (c : CodePoint) : Text :=
  if c = '"' then "\\\""
  else if c = '\\' then "\\\\"
  else if c = '\n' then "\\n"
  else if c = '\r' then "\\r"
  else if c = '\t' then "\\t"
  else if c.val = 8 then "\\b"
  else if c.val = 12 then "\\f"
  else if c.val < 0x20 then "\\u" ++ hexDigits 4 c.val
  else [c]

def plainString (t : Text) : Text :=
  "\"" ++ t.flatMap plainCodePoint ++ "\""

/-- A line end and the blanks of a depth. -/
def lineAt (depth : Nat) : Text := '\n' :: List.replicate (2 * depth) ' '

mutual

def indented (depth : Nat) : Datum → Text
  | .null => "null"
  | .bool b => if b then "true" else "false"
  | .int n => Text.ofInt n
  | .real x => x.toText
  | .text t | .moment t => plainString t
  | .bytes b => plainString (b.map fun x => .ofNat x.toNat)
  | .list [] | .set [] => "[]"
  | .list items | .set items =>
    "[" ++ lineAt (depth + 1) ++ indentedItems (depth + 1) items ++ lineAt depth ++ "]"
  | .pair a b =>
    "[" ++ lineAt (depth + 1) ++ indented (depth + 1) a ++ "," ++ lineAt (depth + 1) ++
      indented (depth + 1) b ++ lineAt depth ++ "]"
  | .map [] => "\x7b\x7d"
  | .map entries =>
    "\x7b" ++ lineAt (depth + 1) ++ indentedEntries (depth + 1) entries ++ lineAt depth ++ "\x7d"

/-- The items of a list, each on a line of its own. -/
def indentedItems (depth : Nat) : List Datum → Text
  | [] => []
  | [item] => indented depth item
  | item :: next :: rest =>
    indented depth item ++ "," ++ lineAt depth ++ indentedItems depth (next :: rest)

/-- The entries of a mapping, each on a line of its own. -/
def indentedEntries (depth : Nat) : List (Datum × Datum) → Text
  | [] => []
  | [(k, v)] => indented depth k ++ ": " ++ indented depth v
  | (k, v) :: next :: rest =>
    indented depth k ++ ": " ++ indented depth v ++ "," ++ lineAt depth ++
      indentedEntries depth (next :: rest)

end

/-- A value over several lines. -/
def writeIndented (d : Datum) : Text := indented 0 d

end DocRepair.Json
