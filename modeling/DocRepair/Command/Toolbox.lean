import DocRepair.Command.Format
import DocRepair.Command.Process
import DocRepair.Files.FileTree

namespace DocRepair.Command

/-- What a command sees when it runs. -/
structure Surroundings where
  tree : FileTree
  working : Place
  input : List UInt8 := []

def lineBytes (lines : List Text) : List UInt8 :=
  Utf8.encode (lines.flatMap (· ++ Text.newline))

namespace Toolbox

/-- Whether a code point makes a file name be shown between quotes. -/
def asksForQuotes (c : CodePoint) : Bool :=
  c.val ≤ 0x20 || c.isOneOf "!\"$&'()*;<=>?[\\^\x60|"

def shownName (name : Text) : Text :=
  if name.isEmpty || name.any asksForQuotes then
    if name.contains '\'' && !name.any (·.isOneOf "\"$\\\x60") then "\"" ++ name ++ "\""
    else "'" ++ Text.substitute '\'' "'\\''" name ++ "'"
  else name

/-- The place that takes everything and holds nothing. -/
def emptyPlace : Place := [("dev" : Text), ("null" : Text)]

/-- The bytes of a file, or why there are none. -/
def fileBytes (s : Surroundings) (name : Text) : Except FileFault (List UInt8) :=
  if (Path.ofText name).resolve s.working = emptyPlace then .ok []
  else (s.tree.read s.working name).mapError (·.fault)

/-- Prints files one after the other; a single dash is the input. -/
def concatenate (s : Surroundings) (arguments : List Text) : Finished :=
  let operands := arguments.filter (· != ("--" : Text))
  match operands.find? fun a => a.opensWith '-' && 1 < a.length && a != ("-u" : Text) with
  | some option =>
    { exitCode := 1
      errors := lineBytes [
        if option.startsWith "--" then "cat: unrecognized option '" ++ option ++ "'"
        else "cat: invalid option -- '" ++ (option.drop 1).take 1 ++ "'",
        "Try 'cat --help' for more information."] }
  | none =>
    let operands := operands.filter (· != ("-u" : Text))
    let results := (if operands.isEmpty then [("-" : Text)] else operands).map fun name =>
      if name == ("-" : Text) then .ok s.input
      else (fileBytes s name).mapError fun fault =>
        "cat: " ++ shownName name ++ ": " ++ fault.text
    let failures := results.filterMap fun r =>
      match r with
      | .error line => some line
      | .ok _ => none
    { exitCode := if failures.isEmpty then 0 else 1
      output := results.flatMap fun r => r.toOption.getD []
      errors := lineBytes failures }

def textEscapes : EscapeRules :=
  { hexadecimal := true, stop := true, leadingZero := true, quote := false }

/-- Whether an argument holds nothing but options for printing a text. -/
def isEchoOption (argument : Text) : Bool :=
  match argument with
  | c :: letters => c == '-' && !letters.isEmpty && letters.all (·.isOneOf "neE")
  | [] => false

/-- Prints arguments with blanks between them. -/
def echo (arguments : List Text) : Finished :=
  let options := (arguments.takeWhile isEchoOption).flatten
  let line := Text.join " " (arguments.dropWhile isEchoOption)
  let ending : List UInt8 := if options.contains 'n' then [] else [0xA]
  let escapes := (options.filter fun c => c.isOneOf "eE").getLast? == some 'e'
  if escapes then
    let u := textEscapes.unescape line
    { output := u.bytes ++ if u.stopped then [] else ending }
  else { output := Utf8.encode line ++ ending }

/-- The way in which formats are printed. -/
def dialect : Format.Dialect where
  format := { hexadecimal := true, stop := true, leadingZero := false, quote := true }
  argument := { textEscapes with quote := true }
  invalidDirective written := "printf: " ++ written ++ ": invalid conversion specification"
  notNumber argument := "printf: ‘" ++ argument ++ "’: expected a numeric value"
  partlyNumber argument := "printf: ‘" ++ argument ++ "’: value not completely converted"

/-- Prints arguments after a format. -/
def printFormat (arguments : List Text) : Finished :=
  match (if arguments.head? == some ("--" : Text) then arguments.tail else arguments) with
  | [] =>
    { exitCode := 1
      errors := lineBytes ["printf: missing operand",
        "Try 'printf --help' for more information."] }
  | format :: values =>
    let printed := Format.print dialect format values
    let excess : List Text := match printed.rest with
      | first :: _ => if printed.stopped then []
        else ["printf: warning: ignoring excess arguments, starting with ‘" ++ first ++ "’"]
      | [] => []
    { exitCode := if printed.errors.isEmpty then 0 else 1
      output := printed.output
      errors := lineBytes (printed.errors ++ excess) }

/-- The command of a name, if there is one. -/
def find? (name : Text) : Option (Surroundings → List Text → Finished) :=
  if name == ("cat" : Text) then some concatenate
  else if name == ("echo" : Text) then some fun _ => echo
  else if name == ("printf" : Text) then some fun _ => printFormat
  else if name == ("true" : Text) then some fun _ _ => {}
  else if name == ("false" : Text) then some fun _ _ => { exitCode := 1 }
  else none

end Toolbox

end DocRepair.Command
