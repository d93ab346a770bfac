import DocRepair.Plugin.Catalogue
import DocRepair.Text.Blank
import DocRepair.Text.Quoted

/-!
Loading a fixer by the path of its class, `module:Class` or `module.Class`.

The parameters of its constructor are filled by their types: one that asks for a service gets the
shared one, any other keeps what it falls back to, or gets nothing.
-/

namespace DocRepair.Plugin

/-- Why a class cannot be loaded. -/
inductive LoadFault where
  | malformedPath
  /-- The first module on the way that is not there. -/
  | missingModule (name : Text)
  | notPackage (name parent : Text)
  /-- A module name that begins with a dot names no module. -/
  | relativeModule (name : Text)
  | missingMember (member moduleName : Text)
  | notFixer
  | isAbstract
  | unnamed
  | constructorFailed (reason : Text)
  deriving DecidableEq, Repr

def LoadFault.reason : LoadFault → Text
  | .malformedPath => "expected 'module:Class' or 'module.Class'"
  | .missingModule name => "module not found (No module named " ++ name.quoted ++ ")"
  | .notPackage name parent =>
    "module not found (No module named " ++ name.quoted ++ "; " ++ parent.quoted ++
      " is not a package)"
  | .relativeModule name =>
    "the 'package' argument is required to perform a relative import for " ++ name.quoted
  | .missingMember member moduleName => "class " ++ member ++ " not found in " ++ moduleName
  | .notFixer => "must be a subclass of stanfix.fixers.base.BaseFixer"
  | .isAbstract => "class is abstract"
  | .unnamed => "class has no name defined"
  | .constructorFailed reason => "constructor failed: " ++ reason

/-- A class path that cannot be loaded. -/
structure LoadError where
  classPath : Text
  fault : LoadFault
  deriving DecidableEq, Repr

/-- The message of an error. A relative module is refused before loading starts. -/
def LoadError.message (e : LoadError) : Text :=
  match e.fault with
  | .relativeModule _ => e.fault.reason
  | _ => "Could not load custom fixer '" ++ e.classPath ++ "': " ++ e.fault.reason

def splitClassPath? (classPath : Text) : Option (Text × Text) :=
  let parts := match classPath.cut? ":" with
    | some parts => some parts
    | none => classPath.cutLast? "."
  parts.filter fun (moduleName, member) => !moduleName.isEmpty && !member.isEmpty

/-- Goes down from a module along names. -/
def descend (catalogue : Catalogue) (parent : Module) : List Text → Except LoadFault Module
  | [] => .ok parent
  | part :: rest =>
    let name := parent.name ++ "." ++ part
    if !parent.isPackage then .error (.notPackage name parent.name)
    else
      match catalogue.find? name with
      | none => .error (.missingModule name)
      | some found => descend catalogue found rest

def findModule (catalogue : Catalogue) (name : Text) : Except LoadFault Module :=
  if name.opensWith '.' then .error (.relativeModule name)
  else
    match name.splitAt '.' with
    | [] => .error (.missingModule name)
    | first :: rest =>
      match catalogue.find? first with
      | none => .error (.missingModule first)
      | some found => descend catalogue found rest

/-- The service whose type is among the words of a written type: the part after the last dot of a
word counts. -/
def serviceWritten? (t : Text) : Option Collaborator :=
  let isBreak := fun c : CodePoint => c.isBlank || c.isOneOf "|[]"
  let words := (t.splitBy fun a b => isBreak a == isBreak b).filter fun word =>
    word.head?.any fun c => !isBreak c
  words.findSome? fun word =>
    let short := match Text.cutLast? word "." with
      | some (_, last) => last
      | none => word
    Collaborator.all.find? (·.typeName == short)

mutual

def Hint.service? : Hint → Option Collaborator
  | .missing | .foreign => none
  | .service c => some c
  | .oneOf members => Hint.serviceAmong? members
  | .written t => serviceWritten? t

/-- The first service among several types. -/
def Hint.serviceAmong? : List Hint → Option Collaborator
  | [] => none
  | hint :: rest =>
    match hint.service? with
    | some c => some c
    | none => Hint.serviceAmong? rest

end

def Slot.argument (slot : Slot) : Argument :=
  if slot.gathers then .value (slot.fallback.getD .null)
  else
    match slot.hint.service? with
    | some c => .shared c
    | none => .value (slot.fallback.getD .null)

def FixerClass.arguments (c : FixerClass) : List (Text × Argument) :=
  c.slots.map fun slot => (slot.name, slot.argument)

/-- The class that a class path names, which has to be able to make a fixer with a name. -/
def loadClass (catalogue : Catalogue) (classPath : Text) : Except LoadFault FixerClass :=
  match splitClassPath? classPath with
  | none => .error .malformedPath
  | some (moduleName, member) => do
    let found ← findModule catalogue moduleName
    match found.member? member with
    | none => .error (.missingMember member moduleName)
    | some .value => .error .notFixer
    | some (.fixerClass c) =>
      if c.isAbstract then .error .isAbstract
      else if c.fixer.name.isEmpty then .error .unnamed
      else
        match c.constructorFault with
        | some reason => .error (.constructorFailed reason)
        | none => .ok c

/-- The class that a class path names. -/
def load (catalogue : Catalogue) (classPath : Text) : Except LoadError FixerClass :=
  (loadClass catalogue classPath).mapError fun fault => ⟨classPath, fault⟩

end DocRepair.Plugin
