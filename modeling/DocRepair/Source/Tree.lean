import DocRepair.Text.LetterCase
import DocRepair.Text.Search

namespace DocRepair

structure Parameter where
  /-- The name without its dollar sign. -/
  name : Text
  /-- The type as written. -/
  type : Option Text
  /-- The position, counted from zero. -/
  position : Nat
  deriving DecidableEq, Repr

/-- A function or method. Lines are counted from one; the first is that of the first modifier or
attribute, the last that of the closing brace or semicolon. -/
structure Callable where
  name : Text
  firstLine : Int
  lastLine : Int
  parameters : List Parameter := []
  returnType : Option Text := none
  hasBody : Bool := true
  /-- Whether a value is returned somewhere in the body. -/
  returnsValue : Bool := false
  /-- Properties whose members the body uses, in order of appearance. -/
  delegates : List Text := []
  deriving DecidableEq, Repr

structure Property where
  /-- The name without its dollar sign. -/
  name : Text
  type : Option Text
  line : Int
  deriving DecidableEq, Repr

/-- The kinds of declarations with members. -/
inductive ClassKind where
  | plain
  | interface
  | trait
  | enum
  deriving DecidableEq, Repr

def ClassKind.text : ClassKind → Text
  | .plain => "class"
  | .interface => "interface"
  | .trait => "trait"
  | .enum => "enum"

/-- A class, interface, trait or enumeration, with its own members in file order. -/
structure ClassLike where
  name : Text
  kind : ClassKind
  firstLine : Int
  lastLine : Int
  methods : List Callable := []
  properties : List Property := []
  deriving DecidableEq, Repr

/-- The declarations of a file, in file order. -/
structure SourceTree where
  namespaceName : Option Text := none
  functions : List Callable := []
  classes : List ClassLike := []
  deriving DecidableEq, Repr

/-- A name without dollar signs at its start. -/
def dropDollars (name : Text) : Text :=
  name.dropWhile fun c => c == '$'

namespace Callable

/-- The first parameter with a name. -/
def parameter? (f : Callable) (name : Text) : Option Parameter :=
  f.parameters.find? (·.name == dropDollars name)

/-- How often a name occurs in a list of names. -/
private def frequency (names : List Text) (name : Text) : Nat :=
  names.countP (· == name)

/-- The delegate that occurs most often; of equals, the one that appears first. -/
def mainDelegate? (f : Callable) : Option Text :=
  f.delegates.foldl (fun best name =>
    match best with
    | none => some name
    | some b =>
      if frequency f.delegates b < frequency f.delegates name then some name else some b) none

end Callable

namespace ClassLike

/-- The first method with a name; case does not matter. -/
def method? (c : ClassLike) (name : Text) : Option Callable :=
  c.methods.find? fun m => m.name.lower == name.lower

/-- The first property with a name. -/
def property? (c : ClassLike) (name : Text) : Option Property :=
  c.properties.find? (·.name == dropDollars name)

end ClassLike

end DocRepair
