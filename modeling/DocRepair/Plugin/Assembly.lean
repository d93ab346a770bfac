import DocRepair.Fixer.Builtin
import DocRepair.Plugin.Load
import DocRepair.Policy.Configuration
import DocRepair.Registry

namespace DocRepair.Plugin

/-- Why the registry of a configuration cannot be put together. -/
inductive AssemblyError where
  | load (e : LoadError)
  | registration (e : RegistryError)
  deriving DecidableEq, Repr

def AssemblyError.message : AssemblyError → Text
  | .load e => e.message
  | .registration e => e.message

/-- The fixers that a configuration names, in order. -/
def loadAll (catalogue : Catalogue) : List Text → Except LoadError (List Fixer)
  | [] => .ok []
  | classPath :: rest => do
    let loaded ← load catalogue classPath
    return loaded.fixer :: (← loadAll catalogue rest)

/-- Registers fixers as a configuration says. -/
def registerAll (configuration : Configuration) :
    Registry → List Fixer → Except RegistryError Registry
  | registry, [] => .ok registry
  | registry, fixer :: rest => do
    let (_, extended) ← registry.register fixer (configuration.priority? fixer.name)
      (configuration.enables fixer.name)
    registerAll configuration extended rest

def assemble (analyze : Analyzer) (catalogue : Catalogue) (configuration : Configuration) :
    Except AssemblyError Registry :=
  match loadAll catalogue configuration.customFixers with
  | .error e => .error (.load e)
  | .ok custom =>
    (registerAll configuration {} (Fixer.builtins analyze ++ custom)).mapError .registration

end DocRepair.Plugin
