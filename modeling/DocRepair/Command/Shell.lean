import DocRepair.Command.Script
import DocRepair.Command.Toolbox

namespace DocRepair.Command

namespace Shell

open Script

/-- What a script sees when it runs. -/
structure Context where
  surroundings : Surroundings
  /-- The name of the script and its arguments. -/
  parameters : List Text

/-- How far a script has come. -/
structure Progress where
  status : Int := 0
  output : List UInt8 := []
  errors : List UInt8 := []
  ended : Bool := false
  deriving Repr

/-- The number that stands for the shell itself among running commands. -/
def ownNumber : Text := "1"

def value (c : Context) (status : Int) (name : Text) : Text :=
  if name == ("?" : Text) then Text.ofInt status
  else if name == ("$" : Text) then ownNumber
  else if name == ("#" : Text) then Text.ofNat (c.parameters.length - 1)
  else if name == ("@" : Text) || name == ("*" : Text) then Text.join " " c.parameters.tail
  else if name == ("PWD" : Text) then Place.toText c.surroundings.working
  else
    match name with
    | [d] => if d.inRange '0' '9' then (c.parameters[d.hex?.getD 0]?).getD [] else []
    | _ => []

/-- The text of a word; a word of nothing but empty variables is left out. -/
def expand (c : Context) (status : Int) (w : Word) : Option Text :=
  let text := w.flatMap fun f =>
    match f with
    | .literal t | .quoted t => t
    | .variable name => value c status name
  let isQuoted := w.any fun f =>
    match f with
    | .quoted _ => true
    | _ => false
  if text.isEmpty && !isQuoted then none else some text

/-- The way in which scripts print formats; `name` and `line` open the messages. -/
def dialect (name : Text) (line : Nat) : Format.Dialect where
  format := { hexadecimal := false, stop := false, leadingZero := false, quote := false }
  argument := { hexadecimal := false, stop := true, leadingZero := true, quote := false }
  invalidDirective written := name ++ ": " ++ Text.ofNat line ++ ": printf: " ++ written ++
    ": invalid directive"
  notNumber argument := name ++ ": " ++ Text.ofNat line ++ ": printf: " ++ argument ++
    ": expected numeric value"
  partlyNumber argument := name ++ ": " ++ Text.ofNat line ++ ": printf: " ++ argument ++
    ": not completely converted"

/-- Prints arguments with blanks between them; escapes are always read. -/
def echo (arguments : List Text) : Finished :=
  let (shown, ending) := if arguments.head? == some ("-n" : Text) then (arguments.tail, [])
    else (arguments, [(0xA : UInt8)])
  let u := (dialect [] 1).argument.unescape (Text.join " " shown)
  { output := u.bytes ++ if u.stopped then [] else ending }

def signals : List (Text × Int) :=
  ([("HUP", 1), ("INT", 2), ("QUIT", 3), ("ABRT", 6), ("KILL", 9), ("SEGV", 11), ("PIPE", 13),
    ("TERM", 15)] : List (String × Int)).map fun (name, n) => (Text.ofString name, n)

/-- A number that is written in digits only. -/
def natural? (t : Text) : Option Nat :=
  if !t.isEmpty && t.all (·.inRange '0' '9') then some (digitsValue 10 t) else none

def ownSignal? (arguments : List Text) : Option Int :=
  match arguments with
  | [target] => if target == ownNumber then some 15 else none
  | [option, target] =>
    if target == ownNumber && option.opensWith '-' then
      let name : Text := option.drop 1
      match natural? name with
      | some n => some n
      | none => (signals.find? fun (s, _) => s == name).map (·.2)
    else none
  | _ => none

/-- What a command leaves, and whether the script ends with it. -/
structure Done where
  finished : Finished
  ended : Bool := false

def runCommand (c : Context) (status : Int) (line : Nat) (input : List UInt8) (name : Text)
    (arguments : List Text) : Done :=
  let script := c.parameters.head?.getD []
  let complaint := fun (code : Int) (message : Text) => Done.mk
    { exitCode := code
      errors := lineBytes [script ++ ": " ++ Text.ofNat line ++ ": " ++ message] } false
  if name == ("exit" : Text) then
    match arguments.head? with
    | none => ⟨{ exitCode := status }, true⟩
    | some code =>
      match natural? code with
      | some n => ⟨{ exitCode := (n % 256 : Nat) }, true⟩
      | none => { complaint 2 ("exit: Illegal number: " ++ code) with ended := true }
  else if name == ("kill" : Text) then
    match ownSignal? arguments with
    | some signal => ⟨{ exitCode := -signal }, true⟩
    | none => complaint 1 "kill: No such process"
  else if name == (":" : Text) then ⟨{}, false⟩
  else if name == ("echo" : Text) then ⟨echo arguments, false⟩
  else if name == ("printf" : Text) then
    match arguments with
    | [] => complaint 2 "printf: usage: printf format [arg ...]"
    | format :: values =>
      let printed := Format.print (dialect script line) format values
      ⟨{ exitCode := if printed.errors.isEmpty then 0 else 1
         output := printed.output
         errors := lineBytes printed.errors }, false⟩
  else
    match Toolbox.find? name with
    | some tool => ⟨tool { c.surroundings with input } arguments, false⟩
    | none =>
      if name.contains '/' && (c.surroundings.tree.find c.surroundings.working name).isOk then complaint 126 (name ++ ": Permission denied")
      else complaint 127 (name ++ ": not found")

/-- Where the bytes of a descriptor end up. -/
inductive Sink where
  | output
  | errors
  | nowhere
  deriving DecidableEq, Repr

/-- The sinks of the output and of the errors after redirections, from left to right. -/
def sinks (c : Context) (status : Int) (redirections : List Redirection) : Sink × Sink :=
  redirections.foldl (fun (first, second) r =>
    let target : Sink :=
      if r.kind = .duplicate then
        match expand c status r.target with
        | some t => if t == ("1" : Text) then first else if t == ("2" : Text) then second
          else .nowhere
        | none => .nowhere
      else .nowhere
    if r.kind = .input then (first, second)
    else if r.descriptor = 2 then (first, target)
    else (target, second)) (.output, .errors)

/-- The input that redirections give to a command. -/
def inputOf (c : Context) (status : Int) (input : List UInt8) (redirections : List Redirection) :
    List UInt8 :=
  match redirections.find? (·.kind = .input) with
  | none => input
  | some r =>
    match Toolbox.fileBytes c.surroundings ((expand c status r.target).getD []) with
    | .ok bytes => bytes
    | .error _ => []

def runSimple (c : Context) (status : Int) (input : List UInt8) (s : Simple) : Done :=
  match s.words.filterMap (expand c status) with
  | [] => ⟨{}, false⟩
  | name :: arguments =>
    let done := runCommand c status s.line (inputOf c status input s.redirections) name arguments
    let (first, second) := sinks c status s.redirections
    let collect := fun (sink : Sink) =>
      (if first = sink then done.finished.output else []) ++
        if second = sink then done.finished.errors else []
    { done with finished := { done.finished with
        output := collect .output
        errors := collect .errors } }

/-- Runs a pipeline: every command reads what the one before it has written. -/
def runPipeline (c : Context) (status : Int) (input errors : List UInt8) : List Simple → Done
  | [] => ⟨{ exitCode := status, output := input, errors }, false⟩
  | [last] =>
    let done := runSimple c status input last
    { done with finished := { done.finished with errors := errors ++ done.finished.errors } }
  | first :: next :: rest =>
    let done := runSimple c status input first
    runPipeline c status done.finished.output (errors ++ done.finished.errors) (next :: rest)

/-- Whether a step is taken after a status. -/
def isDue (connector : Connector) (status : Int) : Bool :=
  match connector with
  | .always => true
  | .afterSuccess => status == 0
  | .afterFailure => status != 0

def runSteps (c : Context) : Progress → List Step → Progress
  | p, [] => p
  | p, step :: rest =>
    if p.ended then p
    else if isDue step.connector p.status then
      let done := runPipeline c p.status c.surroundings.input [] step.pipeline
      runSteps c {
        status := done.finished.exitCode
        output := p.output ++ done.finished.output
        errors := p.errors ++ done.finished.errors
        ended := done.ended && step.pipeline.length == 1 } rest
    else runSteps c p rest

def runScript (c : Context) (script : Text) : Finished :=
  match Script.read script with
  | .error fault =>
    { exitCode := 2
      errors := lineBytes [c.parameters.head?.getD [] ++ ": 1: " ++ fault.message] }
  | .ok steps =>
    let p := runSteps c {} steps
    { exitCode := p.status, output := p.output, errors := p.errors }

/-- Runs a shell with its arguments: a script among them, or one in a file. -/
def runShell (name : Text) (s : Surroundings) : List Text → Finished
  | [] => {}
  | first :: rest =>
    let failed := fun (message : Text) => Finished.mk 2 [] (lineBytes [name ++ ": 0: " ++ message])
    if first.opensWith '-' then
      if first.contains 'c' then
        match rest with
        | [] => failed "-c requires an argument"
        | script :: parameters =>
          runScript ⟨s, if parameters.isEmpty then [name] else parameters⟩ script
      else {}
    else
      match Toolbox.fileBytes s first with
      | .ok bytes => runScript ⟨s, first :: rest⟩ (Utf8.decode bytes)
      | .error _ => failed ("cannot open " ++ first ++ ": No such file")

end Shell

/-- The directories in which commands are found. -/
def commandPlaces : List Text :=
  (["/bin/", "/usr/bin/"] : List String).map Text.ofString

/-- The command of a name among those that are at hand. -/
def command? (name : Text) : Option (Surroundings → List Text → Finished) :=
  let short : Text := match commandPlaces.find? name.startsWith with
    | some place => name.drop place.length
    | none => name
  if short == ("sh" : Text) || short == ("dash" : Text) then some (Shell.runShell name)
  else Toolbox.find? short

/-- Starts the commands that are at hand. Files of the file system are never commands. -/
def launcher (s : Surroundings) : Launcher := fun name arguments =>
  if (name :: arguments).any (·.contains (.ofNat 0)) then .error .zeroByte
  else
    match command? name with
    | some run => .ok (run s arguments)
    | none =>
      let refuse := fun (fault : FileFault) => Except.error (LaunchFault.system ⟨fault, name⟩)
      if name.isEmpty then refuse .denied
      else if !name.contains '/' then refuse .missing
      else
        match Toolbox.fileBytes s name with
        | .ok _ | .error .isDirectory => refuse .denied
        | .error fault => refuse fault

end DocRepair.Command
