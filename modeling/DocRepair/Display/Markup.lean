import DocRepair.Display.Shortcode

namespace DocRepair.Display

/-- Why a text with tags cannot be shown. -/
inductive MarkupError where
  /-- A closing tag that names no open one. -/
  | unmatched (tag : Text) (position : Nat)
  /-- A closing tag without a name where none is open. -/
  | nothingOpen (position : Nat)
  deriving DecidableEq, Repr

def MarkupError.message : MarkupError → Text
  | .unmatched tag position =>
    "closing tag '[" ++ tag ++ "]' at position " ++ Text.ofNat position ++
      " doesn't match any open tag"
  | .nothingOpen position =>
    "closing tag '[/]' at position " ++ Text.ofNat position ++ " has nothing to close"

/-- The parts of a text with tags. -/
inductive Piece where
  | text (t : Text)
  /-- Backslashes and tags that are meant literally. -/
  | literal (t : Text)
  | tag (position : Nat) (body : Text)
  deriving DecidableEq, Repr

/-- Whether a code point can begin the body of a tag. -/
def opensTag (c : CodePoint) : Bool := c.inRange 'a' 'z' || c.isOneOf "#/@"

def tagBody? : Text → Option Text
  | bracket :: rest =>
    let body := rest.takeWhile fun c : CodePoint => c != '[' && c != ']'
    if bracket == '[' && body.head?.any opensTag && Text.opensWith (rest.drop body.length) ']' then
      some body
    else none
  | [] => none

/-- Puts a code point in front of the text at the start of pieces. -/
def consText (c : CodePoint) : List Piece → List Piece
  | .text t :: rest => .text (c :: t) :: rest
  | pieces => .text [c] :: pieces

/-- The pieces for a tag with backslashes in front: two of them stand for one, and one that is left
makes the tag literal. -/
def tagPieces (position slashes : Nat) (body : Text) : List Piece :=
  let kept := slashes / 2
  let front := if kept = 0 then [] else [Piece.literal (List.replicate kept '\\')]
  front ++ [if slashes % 2 = 1 then .literal ("[" ++ body ++ "]") else .tag (position + 2 * kept) body]

/-- The pieces from a position on; `skip` code points of a tag are still to be passed over. -/
def piecesFrom : (skip position : Nat) → Text → List Piece
  | _, _, [] => []
  | skip + 1, position, _ :: rest => piecesFrom skip (position + 1) rest
  | 0, position, c :: rest =>
    let slashes := ((c :: rest).takeWhile fun d : CodePoint => d == '\\').length
    match tagBody? ((c :: rest).drop slashes) with
    | some body =>
      tagPieces position slashes body ++
        piecesFrom (slashes + body.length + 1) (position + 1) rest
    | none => consText c (piecesFrom 0 (position + 1) rest)

def styleShortcuts : List (Text × Text) :=
  ([("b", "bold"), ("d", "dim"), ("i", "italic"), ("u", "underline"), ("uu", "underline2"),
    ("r", "reverse"), ("s", "strike"), ("c", "conceal"), ("o", "overline")] :
    List (String × String)).map fun (short, long) => (Text.ofString short, Text.ofString long)

def styleName (written : Text) : Text :=
  let name := written.strip.lower
  ((styleShortcuts.find? fun (short, _) => short == name).map (·.2)).getD name

/-- The part of a tag in front of an equals sign. -/
def tagName (body : Text) : Text := body.takeWhile fun c : CodePoint => c != '='

/-- The open tags after a closing one; the innermost is the first. -/
def close (position : Nat) (body : Text) (opened : List Text) : Except MarkupError (List Text) :=
  let name := Text.strip ((tagName body).drop 1)
  if name.isEmpty then
    match opened with
    | [] => .error (.nothingOpen position)
    | _ :: rest => .ok rest
  else if opened.contains (styleName name) then .ok (opened.erase (styleName name))
  else .error (.unmatched body position)

/-- Shows pieces, given the tags that are open. -/
def showPieces : (opened : List Text) → List Piece → Except MarkupError Text
  | _, [] => .ok []
  | opened, .text t :: rest =>
    (showPieces opened rest).map (withPictures (Text.replace "\\[" "[" t) ++ ·)
  | opened, .literal t :: rest => (showPieces opened rest).map (withPictures t ++ ·)
  | opened, .tag position body :: rest =>
    if body.opensWith '/' then
      match close position body opened with
      | .ok opened => showPieces opened rest
      | .error e => .error e
    else showPieces (styleName (tagName body) :: opened) rest

/-- A text without its tags, and with pictures in place of their names. -/
def withoutTags (t : Text) : Except MarkupError Text :=
  showPieces [] (piecesFrom 0 0 t)

end DocRepair.Display
