import DocRepair.Text.Quoted
import DocRepair.Text.Search

namespace DocRepair.Utf8

def isTail (b : UInt8) : Bool :=
  0x80 ≤ b && b ≤ 0xBF

/-- What the first code point of a byte sequence is. -/
inductive Step where
  /-- A well-formed sequence of some length. -/
  | scalar (c : CodePoint) (length : Nat)
  /-- The first bytes, that many of them, cannot begin a code point. -/
  | invalid (length : Nat)
  deriving Repr

/-- The bits that a continuation byte carries. -/
def tailBits (b : UInt8) : Nat := b.toNat % 0x40

/-- Reads the first code point; an ill-formed sequence ends before the first byte that could not
continue it. -/
def step (first : UInt8) (rest : List UInt8) : Step :=
  if first < 0x80 then .scalar (.ofNat first.toNat) 1
  else if 0xC2 ≤ first && first ≤ 0xDF then
    match rest with
    | b :: _ =>
      if isTail b then .scalar (.ofNat (first.toNat % 0x20 * 0x40 + tailBits b)) 2 else .invalid 1
    | [] => .invalid 1
  else if 0xE0 ≤ first && first ≤ 0xEF then
    match rest with
    | b :: rest =>
      let low : UInt8 := if first == 0xE0 then 0xA0 else 0x80
      let high : UInt8 := if first == 0xED then 0x9F else 0xBF
      if low ≤ b && b ≤ high then
        match rest with
        | c :: _ =>
          if isTail c then
            .scalar (.ofNat (first.toNat % 0x10 * 0x1000 + tailBits b * 0x40 + tailBits c)) 3
          else .invalid 2
        | [] => .invalid 2
      else .invalid 1
    | [] => .invalid 1
  else if 0xF0 ≤ first && first ≤ 0xF4 then
    match rest with
    | b :: rest =>
      let low : UInt8 := if first == 0xF0 then 0x90 else 0x80
      let high : UInt8 := if first == 0xF4 then 0x8F else 0xBF
      if low ≤ b && b ≤ high then
        match rest with
        | c :: rest =>
          if isTail c then
            match rest with
            | d :: _ =>
              if isTail d then
                .scalar (.ofNat (first.toNat % 8 * 0x40000 + tailBits b * 0x1000 +
                  tailBits c * 0x40 + tailBits d)) 4
              else .invalid 3
            | [] => .invalid 3
          else .invalid 2
        | [] => .invalid 2
      else .invalid 1
    | [] => .invalid 1
  else .invalid 1

/-- Decodes bytes, carrying every undecodable byte as an escape; `skip` bytes of a code point that
has been read are still to be passed over. -/
def decodeFrom : (skip : Nat) → List UInt8 → Text
  | _, [] => []
  | skip + 1, _ :: rest => decodeFrom skip rest
  | 0, first :: rest =>
    match step first rest with
    | .scalar c length => c :: decodeFrom (length - 1) rest
    | .invalid _ => .ofByteEscape first :: decodeFrom 0 rest

/-- The text of a byte sequence. -/
def decode (bytes : List UInt8) : Text :=
  decodeFrom 0 bytes

/-- The bytes of a code point; an escape is written as its byte. Other surrogates have the bytes
their numbers would have. -/
def encodeOne (c : CodePoint) : List UInt8 :=
  match c.byteEscape? with
  | some b => [b]
  | none =>
    let n := c.val
    if n < 0x80 then [UInt8.ofNat n]
    else if n < 0x800 then [UInt8.ofNat (0xC0 + n / 0x40), UInt8.ofNat (0x80 + n % 0x40)]
    else if n < 0x10000 then
      [UInt8.ofNat (0xE0 + n / 0x1000), UInt8.ofNat (0x80 + n / 0x40 % 0x40),
        UInt8.ofNat (0x80 + n % 0x40)]
    else
      [UInt8.ofNat (0xF0 + n / 0x40000), UInt8.ofNat (0x80 + n / 0x1000 % 0x40),
        UInt8.ofNat (0x80 + n / 0x40 % 0x40), UInt8.ofNat (0x80 + n % 0x40)]

def encode (t : Text) : List UInt8 :=
  t.flatMap encodeOne

/-- A surrogate that is no escape has no bytes in a file. -/
def isWritable (t : Text) : Bool :=
  t.all fun c => !c.isSurrogate || c.byteEscape?.isSome

/-- Where encoding fails: at a run of surrogates the first of which is no escape. -/
structure EncodeError where
  start : Nat
  surrogates : Text
  deriving DecidableEq, Repr

/-- The message of an error: one code point is shown, more are given by their places. -/
def EncodeError.message (e : EncodeError) : Text :=
  let place : Text :=
    if e.surrogates.length = 1 then
      "character '" ++ e.surrogates.flatMap (fun c => ("\\u" : Text) ++ hexDigits 4 c.val) ++
        "' in position " ++ Text.ofNat e.start
    else "characters in position " ++ Text.ofNat e.start ++ "-" ++
      Text.ofNat (e.start + e.surrogates.length - 1)
  "'utf-8' codec can't encode " ++ place ++ ": surrogates not allowed"

/-- The first place at which a text cannot be encoded, from an offset on. -/
def encodeErrorFrom? (offset : Nat) : Text → Option EncodeError
  | [] => none
  | c :: rest =>
    if c.isSurrogate && c.byteEscape?.isNone then
      some ⟨offset, (c :: rest).takeWhile CodePoint.isSurrogate⟩
    else encodeErrorFrom? (offset + 1) rest

/-- The first surrogates of a text, from an offset on. -/
def surrogateErrorFrom? (offset : Nat) : Text → Option EncodeError
  | [] => none
  | c :: rest =>
    if c.isSurrogate then some ⟨offset, (c :: rest).takeWhile CodePoint.isSurrogate⟩
    else surrogateErrorFrom? (offset + 1) rest

/-- The first place at which a text cannot be printed: no surrogate can, not even an escape. -/
def surrogateError? (t : Text) : Option EncodeError := surrogateErrorFrom? 0 t

/-- The bytes of a text, if it has any. -/
def encodeStrict (t : Text) : Except EncodeError (List UInt8) :=
  match encodeErrorFrom? 0 t with
  | some e => .error e
  | none => .ok (encode t)

/-- Where and why strict decoding fails. -/
structure DecodeError where
  /-- The bytes at fault: the first of them and how many. -/
  start : Nat
  length : Nat
  byte : UInt8
  reason : String
  deriving Repr

/-- The message of an error: one byte is shown, more are given by their places. -/
def DecodeError.message (e : DecodeError) : Text :=
  let place : Text :=
    if e.length = 1 then
      "byte 0x" ++ hexDigits 2 e.byte.toNat ++ " in position " ++ Text.ofNat e.start
    else "bytes in position " ++ Text.ofNat e.start ++ "-" ++ Text.ofNat (e.start + e.length - 1)
  "'utf-8' codec can't decode " ++ place ++ ": " ++ e.reason

private def errorReason (first : UInt8) (rest : List UInt8) (length : Nat) : String :=
  if first < 0xC2 || 0xF4 < first then "invalid start byte"
  else if rest.length < length then "unexpected end of data"
  else "invalid continuation byte"

/-- Decodes bytes strictly, from a byte offset on. -/
def strictFrom : (offset skip : Nat) → List UInt8 → Except DecodeError Text
  | _, _, [] => .ok []
  | offset, skip + 1, _ :: rest => strictFrom (offset + 1) skip rest
  | offset, 0, first :: rest =>
    match step first rest with
    | .scalar c length => (strictFrom (offset + 1) (length - 1) rest).map (c :: ·)
    | .invalid length => .error ⟨offset, length, first, errorReason first rest length⟩

/-- The text of a well-formed byte sequence. -/
def decodeStrict (bytes : List UInt8) : Except DecodeError Text :=
  strictFrom 0 0 bytes

/-- Decodes bytes, putting one U+FFFD in place of each undecodable sequence. -/
def lossyFrom : (skip : Nat) → List UInt8 → Text
  | _, [] => []
  | skip + 1, _ :: rest => lossyFrom skip rest
  | 0, first :: rest =>
    match step first rest with
    | .scalar c length => c :: lossyFrom (length - 1) rest
    | .invalid length => .ofNat 0xFFFD :: lossyFrom (length - 1) rest

/-- The text of a byte sequence with U+FFFD in place of what is undecodable. -/
def decodeLossy (bytes : List UInt8) : Text :=
  lossyFrom 0 bytes

end DocRepair.Utf8
