import DocRepair.Display.ShortcodeTable
import DocRepair.Text.Blank
import DocRepair.Text.LetterCase
import DocRepair.Text.Search

namespace DocRepair.Display

/-- The value after a key in a list of keys and values in turn. -/
def valueAfter? (key : Text) : List Text → Option Text
  | k :: v :: rest => if k == key then some v else valueAfter? key rest
  | _ => none

/-- The picture of a name; letter case does not matter. -/
def picture? (name : Text) : Option Text :=
  let key := name.lower
  shortcodeLines.findSome? fun line => valueAfter? key ((Text.ofString line).splitAt ' ')

/-- The endings of a name that choose a form of its picture, and the selectors of the forms. -/
def pictureForms : List (Text × CodePoint) :=
  [("-emoji", .ofNat 0xFE0F), ("-text", .ofNat 0xFE0E)]

/-- What the text between two colons stands for. -/
def spelled? (between : Text) : Option Text :=
  match pictureForms.find? fun (ending, _) => between.endsWith ending with
  | some (ending, selector) =>
    (picture? (between.take (between.length - ending.length))).map (· ++ [selector])
  | none => picture? between

/-- The text from a colon up to the next one, if no blank stands between them. -/
def betweenColons? (rest : Text) : Option Text :=
  let between := rest.takeWhile fun c : CodePoint => c != ':' && !c.isBlank
  if Text.opensWith (rest.drop between.length) ':' then some between else none

/-- Puts pictures in place of their names; `skip` code points of a name are still to be passed
over. Names without a picture stay, and the colon that ends one begins no other. -/
def withPicturesFrom : (skip : Nat) → Text → Text
  | _, [] => []
  | skip + 1, _ :: rest => withPicturesFrom skip rest
  | 0, c :: rest =>
    if c == ':' then
      match betweenColons? rest with
      | some between =>
        (spelled? between).getD (":" ++ between ++ ":") ++
          withPicturesFrom (between.length + 1) rest
      | none => c :: withPicturesFrom 0 rest
    else c :: withPicturesFrom 0 rest

/-- A text with pictures in place of their names. -/
def withPictures (t : Text) : Text := withPicturesFrom 0 t

end DocRepair.Display
