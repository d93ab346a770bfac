import DocRepair.Text.CodePoint

namespace DocRepair.Text

/-- Whether the first code point of a text is the given one. -/
def opensWith (t : Text) (c : CodePoint) : Bool :=
  t.head? == some c

/-- Whether a text begins with another. -/
abbrev startsWith (t start : Text) : Bool :=
  start.isPrefixOf t

/-- Whether a text ends with another. -/
abbrev endsWith (t ending : Text) : Bool :=
  ending.isSuffixOf t

/-- Whether a text occurs in another. -/
def holds (t : Text) (part : Text) : Bool :=
  part.isPrefixOf t ||
    match t with
    | [] => false
    | _ :: rest => holds rest part

/-- The text before and after the first occurrence of another text. -/
def cut? (t : Text) (part : Text) : Option (Text × Text) :=
  if part.isPrefixOf t then some ([], t.drop part.length)
  else
    match t with
    | [] => none
    | c :: rest => (cut? rest part).map fun (before, after) => (c :: before, after)

/-- The text before and after the last occurrence of another text. -/
def cutLast? (t : Text) (part : Text) : Option (Text × Text) :=
  match t with
  | [] => if part.isEmpty then some ([], []) else none
  | c :: rest =>
    match cutLast? rest part with
    | some (before, after) => some (c :: before, after)
    | none => if part.isPrefixOf (c :: rest) then some ([], (c :: rest).drop part.length) else none

/-- Puts a code point in front of the first piece. -/
def consFirst (c : CodePoint) : List Text → List Text
  | [] => [[c]]
  | first :: rest => (c :: first) :: rest

/-- The pieces of a text between the occurrences of one code point. -/
def splitAt (separator : CodePoint) : Text → List Text
  | [] => [[]]
  | c :: rest => if c = separator then [] :: splitAt separator rest else consFirst c (splitAt separator rest)

/-- The pieces of a text between the occurrences of a pair of code points. -/
def splitAtPair (first second : CodePoint) : Text → List Text
  | [] => [[]]
  | [c] => [[c]]
  | c :: d :: rest =>
    if c = first ∧ d = second then [] :: splitAtPair first second rest
    else consFirst c (splitAtPair first second (d :: rest))

/-- The pieces put together with a text between any two of them. -/
def join (separator : Text) : List Text → Text
  | [] => []
  | [piece] => piece
  | piece :: next :: rest => piece ++ separator ++ join separator (next :: rest)

/-- Every occurrence of a code point put in place by a text. -/
def substitute (old : CodePoint) (new : Text) (t : Text) : Text :=
  t.flatMap fun c => if c = old then new else [c]

/-- Reads `t` from the left and puts `new` in place of each occurrence of `old`; `skip` code points
of an occurrence that has been replaced are still to be passed over. -/
def replaceFrom (old new : Text) : (skip : Nat) → Text → Text
  | _, [] => []
  | skip + 1, _ :: rest => replaceFrom old new skip rest
  | 0, c :: rest =>
    if old.isPrefixOf (c :: rest) then new ++ replaceFrom old new (old.length - 1) rest
    else c :: replaceFrom old new 0 rest

/-- Every occurrence of a non-empty text, from left to right, put in place by another. -/
def replace (old new t : Text) : Text :=
  replaceFrom old new 0 t

/-- The order of texts by code points. -/
def below : Text → Text → Bool
  | [], [] => false
  | [], _ :: _ => true
  | _ :: _, [] => false
  | a :: s, b :: t => a.val < b.val || (a == b && below s t)

/-- The decimal digits of a natural number. -/
def ofNat (n : Nat) : Text :=
  (Nat.toDigits 10 n).map CodePoint.ofChar

/-- The decimal digits of an integer, after a minus sign if it is negative. -/
def ofInt : Int → Text
  | .ofNat n => ofNat n
  | .negSucc n => '-' :: ofNat (n + 1)

end DocRepair.Text
