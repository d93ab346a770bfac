import DocRepair.Datum
import DocRepair.Files.Disk
import DocRepair.Policy.PathFilter
import DocRepair.Policy.Rule

namespace DocRepair

structure Configuration where
  rules : Rules := {}
  /-- If there are any, only these fixers take part. -/
  enabledFixers : List Text := []
  /-- Fixers that do not take part, if none are enabled by name. -/
  disabledFixers : List Text := []
  priorities : OrderedMap Text Int := []
  customFixers : List Text := []
  /-- If there are any, only paths that they cover are processed. -/
  includePaths : List Text := []
  /-- Paths that they cover are never processed. -/
  excludePaths : List Text := []
  deriving DecidableEq, Repr

/-- What ends a run early. -/
inductive Halt where
  | system (e : SystemError)
  | links (fault : LinkFault)
  | expression (thrown : Thrown)
  deriving DecidableEq, Repr

def Halt.message : Halt → Text
  | .system e => e.message
  | .links fault => fault.message
  | .expression thrown => thrown.text

namespace Configuration

def actionFor (c : Configuration) (re : Expressions) (message : Text) : Action :=
  c.rules.actionFor re message

/-- Whether a fixer takes part. -/
def enables (c : Configuration) (fixer : Text) : Bool :=
  if c.enabledFixers.isEmpty then !c.disabledFixers.contains fixer
  else c.enabledFixers.contains fixer

def priority? (c : Configuration) (fixer : Text) : Option Int :=
  c.priorities.get? fixer

/-- Whether a file is processed, given the spellings of its path that count. -/
def allows (c : Configuration) (re : Expressions) (spellings : List Text) :
    Except Thrown Bool := do
  let included ← if c.includePaths.isEmpty then pure true
    else spellings.anyM (PathFilter.coversAny re c.includePaths)
  if included then return !(← spellings.anyM (PathFilter.coversAny re c.excludePaths))
  else return false

/-- The spellings of a path that count: as it is written and, if it lies below the base, as seen
from there. -/
def spellings (disk : Disk) (base : Option Text) (path : Text) : Except LinkFault (List Text) :=
  match base with
  | none => return [path]
  | some base => do
    let some resolved ← disk.resolve path | return [path]
    let some above ← disk.resolve base | return [path]
    return path :: (Path.relativeTo? above resolved).toList

/-- Whether the file at a path is processed. -/
def allowsPath (c : Configuration) (re : Expressions) (disk : Disk) (base : Option Text)
    (path : Text) : Except Halt Bool := do
  let spellings ← (spellings disk base path).mapError .links
  (c.allows re spellings).mapError .expression

end Configuration

inductive ConfigurationFault where
  | rootNotMapping
  | notMapping (key : Text)
  | notTexts (key : Text)
  | invalidRule (pattern action : Text)
  | invalidDefault (action : Text)
  | emptyPattern
  | priorityNotInteger (fixer : Text)
  | invalidExpression (pattern : Text) (fault : ExpressionFault)
  deriving DecidableEq, Repr

/-- The message of a fault. What reading an expression has raised is reported as it is. -/
def ConfigurationFault.message : ConfigurationFault → Text
  | .rootNotMapping => "Configuration root must be an object"
  | .notMapping key => "Configuration \"" ++ key ++ "\" must be an object"
  | .notTexts key => "Configuration \"" ++ key ++ "\" must be an array"
  | .invalidRule pattern action =>
    "Invalid rule \"" ++ pattern ++ "\": " ++ Action.invalidText action
  | .invalidDefault action => "Invalid default rule: " ++ Action.invalidText action
  | .emptyPattern => "Rule patterns must be non-empty strings"
  | .priorityNotInteger fixer => "Priority for fixer \"" ++ fixer ++ "\" must be an integer"
  | .invalidExpression pattern (.refused message) =>
    "Invalid regex pattern \"" ++ pattern ++ "\": " ++ message
  | .invalidExpression _ (.raised thrown) => thrown.text

namespace Configuration

def keyText : Datum → Text
  | .text t | .moment t => t
  | .null => "None"
  | .bool b => if b then "True" else "False"
  | .int n => Text.ofInt n
  | .real x => x.toText
  | .bytes b => quotedBytes b
  | .list _ | .set _ | .pair _ _ | .map _ => []

/-- The entries of a section; a section that is absent is empty. -/
def mapping (entries : List (Datum × Datum)) (key label : Text) :
    Except ConfigurationFault (List (Datum × Datum)) :=
  match Datum.lookup entries key with
  | none => .ok []
  | some (.map inside) => .ok inside
  | some _ => .error (.notMapping label)

/-- The texts of a list; a list that is absent is empty. -/
def texts (entries : List (Datum × Datum)) (key label : Text) :
    Except ConfigurationFault (List Text) :=
  match Datum.lookup entries key with
  | none => .ok []
  | some (.list items) =>
    if items.all (·.text?.isSome) then .ok (items.filterMap Datum.text?)
    else .error (.notTexts label)
  | some _ => .error (.notTexts label)

/-- The word for an action: a text, or the text under `action`. -/
def actionWord? : Datum → Option Text
  | .text t => some t
  | .map entries => (Datum.lookup entries "action").bind Datum.text?
  | _ => none

/-- The rules of a section; entries without a word for an action are left out. -/
def readRules : List (Datum × Datum) → OrderedMap Text Action →
    Except ConfigurationFault (OrderedMap Text Action)
  | [], rules => .ok rules
  | (key, value) :: rest, rules =>
    match actionWord? value with
    | none => readRules rest rules
    | some word =>
      match Action.ofText? word with
      | none => .error (.invalidRule (keyText key) word)
      | some action => readRules rest (OrderedMap.put rules (keyText key) action)

/-- The action for all other diagnostics. -/
def readFallback (entries : List (Datum × Datum)) : Except ConfigurationFault Action :=
  match (Datum.lookup entries "default").bind actionWord? with
  | none => .ok .fix
  | some word =>
    match Action.ofText? word with
    | none => .error (.invalidDefault word)
    | some action => .ok action

/-- The integers among priorities; truth values are no integers. -/
def readPriorities (priorities : OrderedMap Text Datum) :
    Except ConfigurationFault (OrderedMap Text Int) :=
  priorities.mapM fun (name, value) =>
    match value with
    | .int n => .ok (name, n)
    | _ => .error (.priorityNotInteger name)

/-- Checks that every expression among the patterns can be read. -/
def checkExpressions (re : Expressions) : List Text → Except ConfigurationFault Unit
  | [] => .ok ()
  | pattern :: rest =>
    match Delimited.ofText? pattern with
    | none => checkExpressions re rest
    | some delimited =>
      match delimited.read re with
      | .ok _ => checkExpressions re rest
      | .error fault => .error (.invalidExpression pattern fault)

def ofDatum (re : Expressions) (document : Datum) : Except ConfigurationFault Configuration := do
  let entries ← match document with
    | .map entries => .ok entries
    | _ => .error .rootNotMapping
  let ruleEntries ← mapping entries "rules" "rules"
  let rules ← readRules ruleEntries []
  let fallback ← readFallback entries
  let fixers ← mapping entries "fixers" "fixers"
  let priorityEntries ← mapping fixers "priorities" "fixers.priorities"
  let enabledFixers ← texts fixers "enabled" "fixers.enabled"
  let disabledFixers ← texts fixers "disabled" "fixers.disabled"
  let customFixers ← texts entries "custom_fixers" "custom_fixers"
  let includePaths ← texts entries "include_paths" "include_paths"
  let excludePaths ← texts entries "exclude_paths" "exclude_paths"
  if rules.any (·.1.isEmpty) then throw .emptyPattern
  let priorities ← readPriorities
    (OrderedMap.ofPairs (priorityEntries.map fun (key, value) => (keyText key, value)))
  checkExpressions re (rules.map (·.1))
  return {
    rules := ⟨rules, fallback⟩
    enabledFixers
    disabledFixers
    priorities
    customFixers
    includePaths
    excludePaths }

end Configuration

end DocRepair
