import DocRepair.Command.Words
import DocRepair.Text.Digit
import DocRepair.Text.Search

namespace DocRepair.Command.Script

inductive Fragment where
  | literal (t : Text)
  /-- What stood between quotes, which makes a word even if it is empty. -/
  | quoted (t : Text)
  | variable (name : Text)
  deriving Repr

abbrev Word := List Fragment

inductive RedirectKind where
  | output
  | input
  | duplicate
  deriving DecidableEq, Repr

inductive Token where
  | word (line : Nat) (w : Word)
  | redirect (descriptor : Nat) (kind : RedirectKind)
  | separator
  | both
  | either
  | pipe
  deriving Repr

/-- Why a script cannot be run. -/
inductive ScriptFault where
  | openQuote
  | unexpected (what : String)
  deriving DecidableEq, Repr

def ScriptFault.message : ScriptFault → Text
  | .openQuote => "Syntax error: Unterminated quoted string"
  | .unexpected what => "Syntax error: " ++ Text.ofString what ++ " unexpected"

/-- Whether a code point can stand in the name of a variable. -/
def isNamePart (c : CodePoint) : Bool :=
  c.inRange 'a' 'z' || c.inRange 'A' 'Z' || c.inRange '0' '9' || c == '_'

/-- What a dollar sign stands for, and how many code points after it belong to it. -/
def variableAt (rest : Text) : Fragment × Nat :=
  match rest with
  | [] => (.literal "$", 0)
  | c :: more =>
    if c.isOneOf "?$@*#" || c.inRange '0' '9' then (.variable [c], 1)
    else if c == '\x7b' then
      let name := more.takeWhile fun d : CodePoint => d != '\x7d'
      (.variable name, name.length + 2)
    else
      let name := rest.takeWhile isNamePart
      if name.isEmpty then (.literal "$", 0) else (.variable name, name.length)

/-- Adds a part to a word that may not have been begun. -/
def extend (word : Option Word) (f : Fragment) : Option Word :=
  some (word.getD [] ++ [f])

/-- The token of a word that has been begun. -/
def flush (line : Nat) (word : Option Word) : List Token :=
  (word.map (Token.word line)).toList

/-- The descriptor that a word in front of a redirection names. -/
def descriptor? (word : Option Word) : Option Nat :=
  match word with
  | some [.literal [c]] => if c.inRange '0' '9' then c.hex? else none
  | _ => none

/-- The tokens from a place on; `skip` code points are still to be passed over. -/
def tokensFrom : (skip line : Nat) → Quoting → Option Word → Text → Except ScriptFault (List Token)
  | _, line, .bare, word, [] => .ok (flush line word)
  | _, _, _, _, [] => .error .openQuote
  | skip + 1, line, q, word, c :: rest =>
    tokensFrom skip (if c == '\n' then line + 1 else line) q word rest
  | 0, line, .single, word, c :: rest =>
    if c == '\'' then tokensFrom 0 line .bare word rest
    else tokensFrom 0 (if c == '\n' then line + 1 else line) .single (extend word (.quoted [c])) rest
  | 0, line, .double, word, c :: rest =>
    if c == '"' then tokensFrom 0 line .bare word rest
    else if c == '\\' && (rest.head?.any (·.isOneOf "$\x60\"\\")) then
      tokensFrom 1 line .double (extend word (.quoted (rest.take 1))) rest
    else if c == '$' then
      let (fragment, covered) := variableAt rest
      tokensFrom covered line .double (extend word fragment) rest
    else tokensFrom 0 (if c == '\n' then line + 1 else line) .double (extend word (.quoted [c])) rest
  | 0, line, .bare, word, c :: rest =>
    let next (tokens : List Token) (skip line : Nat) :=
      (tokensFrom skip line .bare none rest).map (flush line word ++ tokens ++ ·)
    if c == ' ' || c == '\t' then next [] 0 line
    else if c == '\n' then
      (tokensFrom 0 (line + 1) .bare none rest).map (flush line word ++ .separator :: ·)
    else if c == ';' then
      if Text.opensWith rest ';' then .error (.unexpected "\";;\"") else next [.separator] 0 line
    else if c == '&' then
      if Text.opensWith rest '&' then next [.both] 1 line else next [.separator] 0 line
    else if c == '|' then
      if Text.opensWith rest '|' then next [.either] 1 line else next [.pipe] 0 line
    else if c == '#' && word.isNone then
      tokensFrom (rest.takeWhile fun d : CodePoint => d != '\n').length line .bare none rest
    else if c == '>' || c == '<' then
      let usual := if c == '>' then 1 else 0
      let descriptor := (descriptor? word).getD usual
      let word := if (descriptor? word).isSome then none else word
      let duplicate := Text.opensWith rest '&'
      let kind : RedirectKind :=
        if duplicate then .duplicate else if c == '>' then .output else .input
      (tokensFrom (if duplicate || Text.opensWith rest c then 1 else 0) line .bare none rest).map
        (flush line word ++ .redirect descriptor kind :: ·)
    else if c == '\\' then
      if Text.opensWith rest '\n' then tokensFrom 1 line .bare word rest
      else tokensFrom 1 line .bare (extend word (.quoted (rest.take 1))) rest
    else if c == '\'' then tokensFrom 0 line .single (extend word (.quoted [])) rest
    else if c == '"' then tokensFrom 0 line .double (extend word (.quoted [])) rest
    else if c == '$' then
      let (fragment, covered) := variableAt rest
      tokensFrom covered line .bare (extend word fragment) rest
    else tokensFrom 0 line .bare (extend word (.literal [c])) rest

/-- Where the bytes of a descriptor go to or come from. -/
structure Redirection where
  descriptor : Nat
  kind : RedirectKind
  target : Word
  deriving Repr

structure Simple where
  line : Nat := 1
  words : List Word := []
  redirections : List Redirection := []
  deriving Repr

/-- Whether nothing has been written of a command. -/
def Simple.isEmpty (s : Simple) : Bool := s.words.isEmpty && s.redirections.isEmpty

/-- When a step is taken: always, after success, or after failure. -/
inductive Connector where
  | always
  | afterSuccess
  | afterFailure
  deriving DecidableEq, Repr

/-- A pipeline, and when it is run. -/
structure Step where
  connector : Connector
  pipeline : List Simple
  deriving Repr

/-- The steps of tokens; the pipeline before the last bar and the command after it are still
open. -/
def stepsFrom (connector : Connector) (before : List Simple) (current : Simple) :
    List Token → Except ScriptFault (List Step)
  | [] =>
    if !current.isEmpty then .ok [⟨connector, before ++ [current]⟩]
    else if before.isEmpty && connector = .always then .ok []
    else .error (.unexpected "end of file")
  | .word line w :: rest =>
    let line := if current.isEmpty then line else current.line
    stepsFrom connector before { current with line, words := current.words ++ [w] } rest
  | .redirect descriptor kind :: .word _ target :: rest =>
    stepsFrom connector before
      { current with redirections := current.redirections ++ [⟨descriptor, kind, target⟩] } rest
  | .redirect _ _ :: _ => .error (.unexpected "redirection")
  | .separator :: rest =>
    if !current.isEmpty then
      (stepsFrom .always [] {} rest).map (⟨connector, before ++ [current]⟩ :: ·)
    else stepsFrom connector before {} rest
  | .pipe :: rest =>
    if current.isEmpty then .error (.unexpected "\"|\"")
    else stepsFrom connector (before ++ [current]) {} rest
  | .both :: rest =>
    if current.isEmpty then .error (.unexpected "\"&&\"")
    else (stepsFrom .afterSuccess [] {} rest).map (⟨connector, before ++ [current]⟩ :: ·)
  | .either :: rest =>
    if current.isEmpty then .error (.unexpected "\"||\"")
    else (stepsFrom .afterFailure [] {} rest).map (⟨connector, before ++ [current]⟩ :: ·)

def read (script : Text) : Except ScriptFault (List Step) := do
  stepsFrom .always [] {} (← tokensFrom 0 1 .bare none script)

end DocRepair.Command.Script
