/-!
Code points and texts.

A text is a list of code points. Surrogates are allowed as code points of their own, because file
contents carry undecodable bytes as the low surrogates U+DC80 to U+DCFF and structured documents
may spell lone surrogates.
-/

namespace DocRepair

/-- One code point, a surrogate or not. -/
structure CodePoint where
  val : Nat
  isLt : val < 0x110000
  deriving DecidableEq, Repr

namespace CodePoint

def ofChar (c : Char) : CodePoint :=
  ⟨c.toNat, by
    have valid := c.valid
    simp only [UInt32.isValidChar, Nat.isValidChar] at valid
    show c.val.toNat < 0x110000
    omega⟩

instance : Coe Char CodePoint := ⟨ofChar⟩

instance : Inhabited CodePoint := ⟨ofChar '\x00'⟩

/-- The code point with a number, and U+FFFD where there is none. -/
def ofNat (n : Nat) : CodePoint :=
  if isLt : n < 0x110000 then ⟨n, isLt⟩ else ⟨0xFFFD, by decide⟩

instance : LT CodePoint := ⟨fun a b => a.val < b.val⟩

instance : LE CodePoint := ⟨fun a b => a.val ≤ b.val⟩

instance (a b : CodePoint) : Decidable (a < b) := inferInstanceAs (Decidable (a.val < b.val))

instance (a b : CodePoint) : Decidable (a ≤ b) := inferInstanceAs (Decidable (a.val ≤ b.val))

/-- Whether the code point lies in a closed range of characters. -/
def inRange (low high : Char) (c : CodePoint) : Bool :=
  low.toNat ≤ c.val && c.val ≤ high.toNat

def isOneOf (c : CodePoint) (set : String) : Bool :=
  set.toList.any fun d => d.toNat == c.val

/-- Surrogates are the code points without a character. -/
def isSurrogate (c : CodePoint) : Bool :=
  0xD800 ≤ c.val && c.val ≤ 0xDFFF

/-- The code point that carries an undecodable byte. -/
def ofByteEscape (b : UInt8) : CodePoint :=
  ⟨0xDC00 + b.toNat, by have := b.toNat_lt; omega⟩

/-- The byte an escape carries: only bytes from 128 on are ever escaped. -/
def byteEscape? (c : CodePoint) : Option UInt8 :=
  if 0xDC80 ≤ c.val ∧ c.val ≤ 0xDCFF then some (UInt8.ofNat (c.val - 0xDC00)) else none

/-- The character of a code point that is not a surrogate; U+FFFD stands for the others. -/
def toChar (c : CodePoint) : Char :=
  if c.isSurrogate then '\uFFFD' else Char.ofNat c.val

end CodePoint

/-- A text is a list of code points. -/
abbrev Text := List CodePoint

namespace Text

def ofString (s : String) : Text :=
  s.toList.map CodePoint.ofChar

instance : Coe String Text := ⟨ofString⟩

/-- The string of a text; U+FFFD stands for surrogates. -/
def toString (t : Text) : String :=
  String.ofList (t.map CodePoint.toChar)

/-- The line feed, as a text. -/
def newline : Text := [('\n' : CodePoint)]

end Text

end DocRepair
