import DocRepair.Text.Search

namespace DocRepair.Cli

/-- What is asked of the command that fixes diagnostics. -/
structure FixOptions where
  /-- The file with the report; without one the analysis tool is run. -/
  input : Option Text := none
  mode : Text := "suggest"
  /-- How the analysis tool is run. -/
  command : Text := "vendor/bin/phpstan analyse --error-format=json"
  /-- If one is given, only this fixer takes part. -/
  fixer : Option Text := none
  config : Option Text := none
  json : Bool := false
  quiet : Bool := false
  verbose : Bool := false
  deriving DecidableEq, Repr

/-- What is asked of the command that lists the fixers. -/
structure ListOptions where
  config : Option Text := none
  json : Bool := false
  deriving DecidableEq, Repr

inductive Request where
  | version
  | fix (options : FixOptions)
  | list (options : ListOptions)
  deriving DecidableEq, Repr

/-- Why arguments ask nothing of the program. -/
inductive UsageError where
  | missingCommand
  | noSuchCommand (name : Text)
  | noSuchOption (name : Text)
  | missingValue (name : Text)
  | takesNoValue (name : Text)
  | extraArgument (argument : Text)
  deriving DecidableEq, Repr

def UsageError.message : UsageError → Text
  | .missingCommand => "Missing command."
  | .noSuchCommand name => "No such command '" ++ name ++ "'."
  | .noSuchOption name => "No such option: " ++ name
  | .missingValue name => "Option '" ++ name ++ "' requires an argument."
  | .takesNoValue name => "Option '" ++ name ++ "' does not take a value."
  | .extraArgument argument => "Got unexpected extra argument (" ++ argument ++ ")"

/-- What an option does to what is asked: it sets a value, or is a mark. -/
inductive Effect (α : Type) where
  | value (set : Text → α → α)
  | mark (set : α → α)

/-- An option of a command: its names and what it does. -/
structure Switch (α : Type) where
  names : List String
  effect : Effect α

variable {α : Type}

/-- What the option of a name does. -/
def effect? (switches : List (Switch α)) (name : Text) : Except UsageError (Effect α) :=
  match switches.find? fun s => s.names.any fun n => Text.ofString n == name with
  | some s => .ok s.effect
  | none => .error (.noSuchOption name)

/-- Where an argument with options leads: to a request, or to one that still needs a value. -/
inductive Partial (α : Type) where
  | settled (request : α)
  | pending (name : Text) (set : Text → α)

/-- Reads options of one letter that stand together; the rest of the letters is the value of one
that takes a value. -/
def readLetters (switches : List (Switch α)) : Text → α → Except UsageError (Partial α)
  | [], request => .ok (.settled request)
  | letter :: rest, request => do
    let name : Text := ['-', letter]
    match ← effect? switches name with
    | .mark set => readLetters switches rest (set request)
    | .value set =>
      if rest.isEmpty then return .pending name fun v => set v request
      else return .settled (set rest request)

/-- Reads an option with a long name; its value may follow an equals sign. -/
def readLong (switches : List (Switch α)) (argument : Text) (request : α) :
    Except UsageError (Partial α) := do
  let (name, given) : Text × Option Text := match argument.cut? "=" with
    | some (name, v) => (name, some v)
    | none => (argument, none)
  match ← effect? switches name, given with
  | .mark set, none => return .settled (set request)
  | .mark _, some _ => throw (.takesNoValue name)
  | .value set, some v => return .settled (set v request)
  | .value set, none => return .pending name fun v => set v request

def readArguments (switches : List (Switch α)) : List Text → α → Except UsageError α
  | [], request => .ok request
  | argument :: rest, request => do
    if argument == ("--" : Text) then
      match rest with
      | [] => return request
      | extra :: _ => throw (.extraArgument extra)
    if !argument.opensWith '-' || argument.length < 2 then throw (.extraArgument argument)
    let reached ← if argument.startsWith "--" then readLong switches argument request
      else readLetters switches (argument.drop 1) request
    match reached, rest with
    | .settled request, rest => readArguments switches rest request
    | .pending _ set, v :: rest => readArguments switches rest (set v)
    | .pending name _, [] => throw (.missingValue name)

/-- The options of the command that fixes diagnostics. -/
def fixSwitches : List (Switch FixOptions) := [
  ⟨["--input", "-i"], .value fun v o => { o with input := some v }⟩,
  ⟨["--mode", "-m"], .value fun v o => { o with mode := v }⟩,
  ⟨["--phpstan-command"], .value fun v o => { o with command := v }⟩,
  ⟨["--fixer", "-f"], .value fun v o => { o with fixer := some v }⟩,
  ⟨["--config", "-c"], .value fun v o => { o with config := some v }⟩,
  ⟨["--json"], .mark fun o => { o with json := true }⟩,
  ⟨["--quiet", "-q"], .mark fun o => { o with quiet := true }⟩,
  ⟨["--verbose"], .mark fun o => { o with verbose := true }⟩]

/-- The options of the command that lists the fixers. -/
def listSwitches : List (Switch ListOptions) := [
  ⟨["--config", "-c"], .value fun v o => { o with config := some v }⟩,
  ⟨["--json"], .mark fun o => { o with json := true }⟩]

def Request.ofArguments : List Text → Except UsageError Request
  | [] => .error .missingCommand
  | first :: rest =>
    if first == ("--version" : Text) || first == ("-V" : Text) then .ok .version
    else if first == ("fix" : Text) then (readArguments fixSwitches rest {}).map .fix
    else if first == ("fixers" : Text) then (readArguments listSwitches rest {}).map .list
    else if first.opensWith '-' then .error (.noSuchOption first)
    else .error (.noSuchCommand first)

end DocRepair.Cli
