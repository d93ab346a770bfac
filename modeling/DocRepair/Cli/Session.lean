import DocRepair.Command.Process
import DocRepair.Display.Markup
import DocRepair.Display.Terminal
import DocRepair.Plugin.Assembly
import DocRepair.Files.FileTree
import DocRepair.Policy.ConfigurationFile
import DocRepair.Report.File

namespace DocRepair.Cli

/-- What a run finds around it. -/
structure World where
  working : Place
  environment : List (Text × Text) := []
  catalogue : Plugin.Catalogue
  analyze : Analyzer
  expressions : Expressions := .standard
  /-- Starts commands in a directory. -/
  launch : FileTree → Place → Command.Launcher

/-- What a run has printed, and the files as it has left them. -/
structure Screen where
  tree : FileTree
  output : Text := []
  errors : Text := []

/-- Faults that a run has no message of its own for. -/
inductive Escape where
  | configuration (e : ConfigurationError)
  | report (e : Report.FileError)
  | loading (e : Plugin.LoadError)
  | noCommand
  | halted (h : Halt)
  | markup (e : Display.MarkupError)
  /-- A text that has no bytes was to be shown as a diff. -/
  | unencodable (e : Utf8.EncodeError)
  /-- A text that has no bytes was to be printed. -/
  | unprintable (e : Utf8.EncodeError)
  deriving Repr

def Escape.message : Escape → Text
  | .configuration e => e.message
  | .report e => e.message
  | .loading e => e.message
  | .noCommand => Command.RunFault.noCommand.message
  | .halted h => h.message
  | .markup e => e.message
  | .unencodable e => e.message
  | .unprintable e => e.message ++
    "\n*** You may need to add PYTHONIOENCODING=utf-8 to your environment ***"

/-- How a run ends before its last line. -/
inductive Stop where
  | exit (code : Nat)
  | escape (e : Escape)
  deriving Repr

/-- A run: it prints, and may stop early. -/
abbrev Session := ExceptT Stop (StateM Screen)

/-- The code for what the user can mend. -/
def userError : Nat := 1

def systemError : Nat := 2

/-- Takes a result, or lets its fault escape. -/
def orEscape {ε α : Type} (escape : ε → Escape) : Except ε α → Session α
  | .ok a => pure a
  | .error e => throw (.escape (escape e))

def printRaw (t : Text) : Session Unit :=
  match Utf8.surrogateError? t with
  | some e => throw (.escape (.unprintable e))
  | none => modify fun s => { s with output := s.output ++ t }

/-- Prints a line in which brackets have no meaning. -/
def printPlain (t : Text) : Session Unit :=
  printRaw (Display.forTerminal (Display.withPictures t) ++ Text.newline)

def printStyled (t : Text) : Session Unit := do
  let shown ← orEscape .markup (Display.withoutTags t)
  printRaw (Display.forTerminal shown ++ Text.newline)

/-- Prints a line among the errors; what has no bytes is spelled out. -/
def complainPlain (t : Text) : Session Unit :=
  modify fun s => { s with
    errors := s.errors ++ t.flatMap (fun c =>
      if c.isSurrogate then ("\\u" : Text) ++ hexDigits 4 c.val else [c]) ++ Text.newline }

/-- Prints a line among the errors, whose style tags are taken off. -/
def complain (t : Text) : Session Unit := do
  complainPlain (Display.forTerminal (← orEscape .markup (Display.withoutTags t)))

/-- Ends the run with a message. -/
def fail {α : Type} (message : Text) (code : Nat) : Session α := do
  complain ("[red]Error:[/red] " ++ message)
  throw (.exit code)

/-- The path of the configuration file: the one that is given, or the one that the environment
names. -/
def configPath (w : World) (given : Option Text) : Option Path :=
  let named := ((w.environment.find? fun (name, _) => name == ("STANFIX_CONFIG" : Text)).map (·.2))
  (given.or (named.filter (!·.isEmpty))).map Path.ofText

def loadConfiguration (w : World) (given : Option Text) : Session Configuration := do
  let disk := (← get).tree.disk w.working
  match disk.configurationFor w.expressions w.working (configPath w given) with
  | .ok configuration => return configuration
  | .error e =>
    if e.isReported then
      complainPlain ("Error: Invalid configuration: " ++ e.message)
      throw (.exit userError)
    else throw (.escape (.configuration e))

/-- Puts together the fixers of a configuration. -/
def buildRegistry (w : World) (configuration : Configuration) : Session Registry := do
  match Plugin.assemble w.analyze w.catalogue configuration with
  | .ok registry => return registry
  | .error (.load ⟨classPath, .relativeModule name⟩) =>
    throw (.escape (.loading ⟨classPath, .relativeModule name⟩))
  | .error (.load e) => fail e.message userError
  | .error (.registration e) => fail ("Invalid fixer setup: " ++ e.message) userError

end DocRepair.Cli
