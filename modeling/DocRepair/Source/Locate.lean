import DocRepair.Source.Tree

namespace DocRepair

/-- A function or method together with the class it belongs to. -/
structure Located where
  declaration : Callable
  owner : Option ClassLike
  deriving DecidableEq, Repr

namespace Located

def line (l : Located) : Int := l.declaration.firstLine

/-- Whether the declaration belongs to a class. -/
def isMethod (l : Located) : Bool := l.owner.isSome

end Located

namespace SourceTree

/-- How far a diagnostic about a signature may be from the declaration. -/
def signatureTolerance : Int := 0

/-- How far a diagnostic about a body may be from the declaration. -/
def bodyTolerance : Int := 5

/-- Whether a line is close enough to another. -/
def isNear (tolerance line target : Int) : Bool :=
  (line - target).natAbs ≤ tolerance

/-- All functions and then all methods, class by class. -/
def callables (tree : SourceTree) : List Located :=
  tree.functions.map (⟨·, none⟩) ++
    tree.classes.flatMap fun c => c.methods.map (⟨·, some c⟩)

/-- The first function or method that begins near a line. -/
def locate? (tree : SourceTree) (line : Int) (tolerance : Int) : Option Located :=
  tree.callables.find? fun l => isNear tolerance l.line line

/-- Whether a line lies in a class or directly above it. -/
def spans (line : Int) (c : ClassLike) : Bool :=
  c.firstLine - 1 ≤ line && line ≤ c.lastLine

/-- The class around a line that begins last; of those that begin on one line, the first. -/
def locateClass? (tree : SourceTree) (line : Int) : Option ClassLike :=
  (tree.classes.filter (spans line)).foldl (fun best c =>
    match best with
    | none => some c
    | some b => if b.firstLine < c.firstLine then some c else some b) none

/-- The first property with a name in the whole file. -/
def firstProperty? (tree : SourceTree) (name : Text) : Option Property :=
  (tree.classes.flatMap (·.properties)).find? (·.name == name)

end SourceTree

end DocRepair
