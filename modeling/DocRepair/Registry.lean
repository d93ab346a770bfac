import DocRepair.Fixer.Basic

namespace DocRepair

structure Registration where
  fixer : Fixer
  priority : Int
  enabled : Bool
  /-- The count of fixers registered before it. -/
  order : Nat

/-- The registered fixers, in the order of their registration. -/
structure Registry where
  registrations : List Registration := []

/-- Why a fixer is not registered. -/
inductive RegistryError where
  | unnamed (className : Text)
  | taken (name className : Text)
  deriving DecidableEq, Repr

def RegistryError.message : RegistryError → Text
  | .unnamed className => "Fixer class " ++ className ++ " has no name defined"
  | .taken name className => "Fixer '" ++ name ++ "' already registered: " ++ className

/-- A result together with a line for the log, if there is one. -/
structure Handled where
  result : FixResult
  log : Option Text := none

namespace Registry

def find? (r : Registry) (name : Text) : Option Registration :=
  r.registrations.find? (·.fixer.name == name)

/-- Registers a fixer under its name, which has to be new. -/
def register (r : Registry) (fixer : Fixer) (priority : Option Int) (enabled : Bool) :
    Except RegistryError (Registration × Registry) :=
  if fixer.name.isEmpty then .error (.unnamed fixer.className)
  else
    match r.find? fixer.name with
    | some existing => .error (.taken fixer.name existing.fixer.className)
    | none =>
      let registration : Registration :=
        ⟨fixer, priority.getD fixer.priority, enabled, r.registrations.length⟩
      .ok (registration, ⟨r.registrations ++ [registration]⟩)

/-- The registered names in the order of code points. -/
def names (r : Registry) : List Text :=
  (r.registrations.map (·.fixer.name)).mergeSort fun a b => !b.below a

/-- The registrations in the order in which they are asked. -/
def dispatchOrder (r : Registry) : List Registration :=
  r.registrations.mergeSort fun a b => b.priority ≤ a.priority

/-- The fixer that handles a diagnostic. -/
def claimant? (r : Registry) (issue : Issue) : Option Fixer :=
  (r.dispatchOrder.find? fun registration =>
    registration.enabled && registration.fixer.claims issue).map (·.fixer)

/-- The reason of a failure for what a fixer has thrown. -/
def thrownText (fixer : Fixer) (thrown : Thrown) : Text :=
  "Fixer " ++ fixer.name ++ " raised " ++ thrown.kind ++ ": " ++ thrown.text

/-- The result of a fixer; what it throws becomes a failure. -/
def settle (fixer : Fixer) (issue : Issue) (content : Text) : Handled :=
  match fixer.fix issue content with
  | .ok result => ⟨result, none⟩
  | .error thrown =>
    ⟨.failure issue content (thrownText fixer thrown),
      some ("ERROR: Fixer " ++ fixer.name ++ " raised while fixing " ++ issue.file ++ ":" ++
        Text.ofInt issue.line)⟩

/-- Lets the claiming fixer handle a diagnostic; its result is final, a failure too. -/
def dispatch? (r : Registry) (issue : Issue) (content : Text) : Option Handled :=
  (r.claimant? issue).map fun fixer => settle fixer issue content

end Registry

end DocRepair
