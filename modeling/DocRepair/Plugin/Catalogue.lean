import DocRepair.Datum
import DocRepair.Fixer.Basic

namespace DocRepair.Plugin

/-- The services that all fixers of a run share. -/
inductive Collaborator where
  | analyzer
  | editor
  deriving DecidableEq, Repr

namespace Collaborator

def all : List Collaborator := [.analyzer, .editor]

def typeName : Collaborator → Text
  | .analyzer => "PhpFileAnalyzer"
  | .editor => "DocblockEditor"

end Collaborator

/-- The type that is asked for by a parameter of a constructor. -/
inductive Hint where
  /-- No type is given. -/
  | missing
  | service (c : Collaborator)
  /-- A type that is no service. -/
  | foreign
  /-- One of several types. -/
  | oneOf (members : List Hint)
  /-- A type that is only known by what is written. -/
  | written (t : Text)

structure Slot where
  name : Text
  hint : Hint := .missing
  /-- What the parameter is if nothing is given. -/
  fallback : Option Datum := none
  /-- Whether the parameter takes what is left over, so that it is never given by name. -/
  gathers : Bool := false

inductive Argument where
  | shared (c : Collaborator)
  | value (d : Datum)
  deriving Repr

structure FixerClass where
  /-- The fixer that the class makes. -/
  fixer : Fixer
  slots : List Slot
  /-- Whether parts of the fixer are missing. -/
  isAbstract : Bool := false
  /-- Why the constructor fails, if it does. -/
  constructorFault : Option Text := none

inductive Member where
  | fixerClass (c : FixerClass)
  /-- Anything else. -/
  | value

/-- A module; only a package has modules below it. -/
structure Module where
  name : Text
  isPackage : Bool := false
  members : List (Text × Member) := []

/-- The modules that can be named. -/
abbrev Catalogue := List Module

def Catalogue.find? (catalogue : Catalogue) (name : Text) : Option Module :=
  List.find? (·.name == name) catalogue

def Module.member? (m : Module) (name : Text) : Option Member :=
  m.members.lookup name

/-- The parameters of a class that takes both services, if they are given. -/
def usualSlots : List Slot :=
  [⟨"analyzer", .oneOf [.service .analyzer, .foreign], some .null, false⟩,
    ⟨"editor", .oneOf [.service .editor, .foreign], some .null, false⟩]

/-- A class that takes both services. -/
def FixerClass.usual (fixer : Fixer) : FixerClass :=
  { fixer, slots := usualSlots }

end DocRepair.Plugin
