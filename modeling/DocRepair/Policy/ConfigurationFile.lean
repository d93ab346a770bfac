import DocRepair.Files.Discovery
import DocRepair.Json.Reader
import DocRepair.Policy.Configuration
import DocRepair.Text.Lines
import DocRepair.Toml.Document
import DocRepair.Yaml.Document

namespace DocRepair

/-- The names of configuration files; the first that is there counts. -/
def configurationNames : List Text :=
  (["stanfix.yaml", "stanfix.yml", "stanfix.json", "stanfix.toml", ".stanfix.yaml",
    "phpstan-fixer.yaml", "phpstan-fixer.yml", "phpstan-fixer.json",
    ".phpstan-fixer.yaml"] : List String).map Text.ofString

def searchDepth : Nat := 10

/-- Searches directories, the nearest first, up to the root of a project. -/
def Disk.configurationAmong? (disk : Disk) : List Place → Except SystemError (Option Place)
  | [] => return none
  | directory :: above => do
    match ← configurationNames.findM? (disk.hasFile directory) with
    | some name => return some (directory ++ [name])
    | none =>
      if ← disk.hasFile directory projectMarker then return none
      else configurationAmong? disk above

def Disk.configuration? (disk : Disk) (directory : Place) : Except SystemError (Option Place) :=
  disk.configurationAmong? (directory.upward.take searchDepth)

inductive ConfigurationFormat where
  | yaml
  | json
  | toml
  deriving DecidableEq, Repr

def ConfigurationFormat.ofEnding? (ending : Text) : Option ConfigurationFormat :=
  if ending == ("yaml" : Text) || ending == ("yml" : Text) then some .yaml
  else if ending == ("json" : Text) then some .json
  else if ending == ("toml" : Text) then some .toml
  else none

/-- Why a configuration cannot be loaded. The first five name the file. -/
inductive LoadFault where
  | missing
  | unsupported (ending : Text)
  | unreadable (e : SystemError)
  /-- The file is not well-formed; a reason may be known. -/
  | malformed (ending reason : Text)
  | invalid (fault : ConfigurationFault)
  | undecodable (e : Utf8.DecodeError)
  | longInteger (digits : Nat)
  | value (fault : Yaml.Fault)
  /-- The system does not tell whether there is a file. -/
  | system (e : SystemError)
  deriving Repr

structure ConfigurationError where
  path : Text
  fault : LoadFault
  deriving Repr

/-- Whether an error is one of configurations; other errors come from reading values. -/
def ConfigurationError.isReported (e : ConfigurationError) : Bool :=
  match e.fault with
  | .undecodable _ | .longInteger _ | .value _ | .system _ => false
  | .invalid (.invalidExpression _ (.raised _)) => false
  | _ => true

def ConfigurationError.message (e : ConfigurationError) : Text :=
  let located := fun (message : Text) => message ++ " (" ++ e.path ++ ")"
  match e.fault with
  | .missing => located "Configuration file not found"
  | .unsupported ending =>
    located ("Unsupported configuration file format: " ++ ending ++
      ". Supported: yaml, yml, json, toml")
  | .malformed ending reason =>
    located ("Failed to parse " ++ ending.upperAscii ++ " configuration file: " ++ reason)
  | .unreadable e => located ("Failed to read configuration file: " ++ e.message)
  | .invalid (.invalidExpression _ (.raised thrown)) => thrown.text
  | .invalid fault => located fault.message
  | .undecodable e => e.message
  | .longInteger digits => longIntegerText digits
  | .value fault => fault.message
  | .system e => e.message

/-- The ending of a path in lower case without dots. -/
def configurationEnding (p : Path) : Text :=
  p.suffix.lower.dropWhile fun c : CodePoint => c == '.'

/-- An error at the end of bytes that are decoded piece by piece is counted from the last piece. -/
def piecewise (e : Utf8.DecodeError) (size : Nat) : Utf8.DecodeError :=
  if e.start + e.length = size && e.reason == "unexpected end of data" then { e with start := 0 }
  else e

/-- The reason for a document that is not well-formed. -/
def malformedReason : Text := "not well-formed"

def decodeConfiguration (ending : Text) (format : ConfigurationFormat) (bytes : List UInt8) :
    Except LoadFault Datum :=
  match Utf8.decodeStrict bytes with
  | .error e => .error (.undecodable (if format = .yaml then piecewise e bytes.length else e))
  | .ok document =>
    match format with
    | .yaml =>
      (Yaml.read document.universalNewlines).mapError fun fault =>
        if fault = .malformed then .malformed ending malformedReason else .value fault
    | .toml =>
      (Toml.read document).mapError fun fault =>
        match fault with
        | .malformed => .malformed ending malformedReason
        | .longInteger digits => .longInteger digits
    | .json =>
      let text := document.universalNewlines
      (Json.read text).mapError fun e =>
        match e with
        | .longInteger digits => .longInteger digits
        | e => .malformed ending (e.message text)

/-- Reads the configuration in the bytes of a file; an empty document is an empty configuration. -/
def readConfiguration (re : Expressions) (ending : Text) (format : ConfigurationFormat)
    (bytes : List UInt8) : Except LoadFault Configuration := do
  let document ← decodeConfiguration ending format bytes
  let document := match document with
    | .null => .map []
    | d => d
  (Configuration.ofDatum re document).mapError .invalid

def Disk.loadConfiguration (disk : Disk) (re : Expressions) (p : Path) :
    Except ConfigurationError Configuration :=
  let ending := configurationEnding p
  let found : Except LoadFault Configuration := do
    if !(← (disk.isFile p.toText).mapError .system) then throw .missing
    let some format := ConfigurationFormat.ofEnding? ending | throw (.unsupported ending)
    readConfiguration re ending format (← (disk.read p.toText).mapError .unreadable)
  found.mapError fun fault => ⟨p.toText, fault⟩

/-- Loads a configuration: the file at a path, or the one that is found for the working directory,
or none. -/
def Disk.configurationFor (disk : Disk) (re : Expressions) (working : Place)
    (path : Option Path) : Except ConfigurationError Configuration := do
  match path with
  | some p => disk.loadConfiguration re p
  | none =>
    match ← (disk.configuration? working).mapError fun e => ⟨e.path, .system e⟩ with
    | some place => disk.loadConfiguration re (Path.ofPlace place)
    | none => return {}

end DocRepair
