import DocRepair.Docblock.TypeSplit
import DocRepair.Text.Search
import DocRepair.Text.Word

namespace DocRepair.Docblock

/-- A tag that has been read. A value that does not have the shape of its family is kept in `raw`. -/
structure Entry where
  type : Option Text := none
  name : Option Text := none
  description : Option Text := none
  raw : Option Text := none
  isStatic : Bool := false
  parameters : Option Text := none
  deriving DecidableEq, Repr

/-- What the value of a tag looks like. -/
inductive TagFamily where
  /-- A type and a variable. -/
  | parameter
  /-- A type, perhaps with a variable. -/
  | variable
  /-- A type. -/
  | result
  /-- A method signature. -/
  | method
  /-- A class name. -/
  | className
  /-- Class names between bars. -/
  | classList
  /-- Nothing. -/
  | flag
  /-- A variable. -/
  | callable
  /-- Anything. -/
  | other
  deriving DecidableEq, Repr

/-- The known tags with their families, in the order of a block that is built from scratch. -/
def knownTags : List (Text × TagFamily) :=
  [("param", .parameter), ("phpstan-param", .parameter),
    ("param-immediately-invoked-callable", .callable), ("param-later-invoked-callable", .callable),
    ("return", .result), ("phpstan-return", .result), ("phpstan-impure", .flag),
    ("phpstan-pure", .flag), ("phpstan-require-extends", .className),
    ("phpstan-require-implements", .className), ("phpstan-sealed", .classList),
    ("throws", .result), ("var", .variable), ("property", .parameter),
    ("property-read", .parameter), ("property-write", .parameter), ("method", .method),
    ("mixin", .className)]

def tagOrder : List Text :=
  knownTags.map (·.1)

def TagFamily.ofTag (tag : Text) : TagFamily :=
  (knownTags.lookup tag).getD .other

/-- A run of code points of a class at the start of a stripped line, and after white space the
text behind it, if there is any. -/
def leadingRun? (p : CodePoint → Bool) (line : Text) : Option (Text × Option Text) :=
  match line.takeWhile p, line.dropWhile p with
  | [], _ => none
  | run, [] => some (run, none)
  | run, c :: rest => if c.isBlank then some (run, some (Text.stripLeft (c :: rest))) else none

/-- A variable at the start of a stripped line, and the text behind it. -/
def leadingVariable? : Text → Option (Text × Option Text)
  | [] => none
  | c :: rest =>
    if c = '$' then (leadingRun? CodePoint.isWord rest).map fun (name, text) => (c :: name, text)
    else none

/-- Code points of a class name. -/
def isClassChar (c : CodePoint) : Bool :=
  c == '\\' || c.isWord

def isClassListChar (c : CodePoint) : Bool :=
  isClassChar c || c == '|'

/-- The parts of a signature: name, parameters, description. -/
structure Signature where
  name : Text
  parameters : Text
  description : Option Text
  deriving DecidableEq, Repr

/-- Reads `name(parameters) description`. -/
def signature? (line : Text) : Option Signature :=
  match line.takeWhile CodePoint.isWord, Text.stripLeft (line.dropWhile CodePoint.isWord) with
  | [], _ => none
  | _, [] => none
  | name, c :: rest =>
    if c = '(' then
      match Text.cut? rest ")" with
      | none => none
      | some (parameters, []) => some ⟨name, parameters, none⟩
      | some (parameters, d :: after) =>
        if d.isBlank then some ⟨name, parameters, some (Text.stripLeft (d :: after))⟩ else none
    else none

def staticMark : Text := "static "

/-- Reads `type name(parameters) description`. -/
def methodBody? (isStatic : Bool) (body : Text) : Option Entry := do
  let (type, rest) ← splitType? body
  let found ← signature? rest
  return {
    type := some type
    name := some found.name
    description := found.description
    isStatic
    parameters := some found.parameters }

/-- Reads a method. A leading `static` is a mark only if a result type follows it; otherwise it is
the result type itself. -/
def readMethod? (value : Text) : Option Entry :=
  let plain := methodBody? false value
  if value.startsWith staticMark then
    (methodBody? true (Text.stripLeft (value.drop staticMark.length))).orElse fun _ => plain
  else plain

def nonempty? (t : Text) : Option Text :=
  if t.isEmpty then none else some t

/-- Reads a value by its family, if it has the shape of the family. -/
def TagFamily.read? (family : TagFamily) (value : Text) : Option Entry :=
  match family with
  | .parameter => do
    let (type, rest) ← splitType? value
    let (name, description) ← leadingVariable? rest
    return { type := some type, name := some name, description }
  | .variable => do
    let (type, rest) ← splitType? value
    match leadingVariable? rest with
    | some (name, description) => return { type := some type, name := some name, description }
    | none => return { type := some type, description := nonempty? rest }
  | .result => do
    let (type, rest) ← splitType? value
    return { type := some type, description := nonempty? rest }
  | .method => readMethod? value
  | .className => do
    let (name, description) ← leadingRun? isClassChar value
    return { name := some name, description }
  | .classList => do
    let (name, description) ← leadingRun? isClassListChar value
    return { name := some name, description }
  | .flag => some {}
  | .callable => do
    let (name, description) ← leadingVariable? value
    return { name := some name, description }
  | .other => none

def Entry.ofValue (tag value : Text) : Entry :=
  ((TagFamily.ofTag tag).read? value).getD { raw := some value }

/-- The parts that are there and not empty, with single spaces between them. -/
def joinParts (parts : List (Option Text)) : Text :=
  Text.join " " ((parts.filterMap id).filter (!·.isEmpty))

/-- A text, or another one where it is absent or empty. -/
def orElseText (t : Option Text) (fallback : Text) : Text :=
  (t.bind nonempty?).getD fallback

def TagFamily.write (family : TagFamily) (entry : Entry) : Text :=
  match family with
  | .parameter | .variable =>
    joinParts [some (orElseText entry.type "mixed"), entry.name, entry.description]
  | .result => joinParts [some (orElseText entry.type "mixed"), entry.description]
  | .method =>
    joinParts [if entry.isStatic then some "static" else none, some (orElseText entry.type "void"),
      some (entry.name.getD [] ++ "(" ++ entry.parameters.getD [] ++ ")"), entry.description]
  | .className | .classList | .callable => joinParts [entry.name, entry.description]
  | .flag | .other => []

def Entry.toValue (tag : Text) (entry : Entry) : Text :=
  entry.raw.getD ((TagFamily.ofTag tag).write entry)

end DocRepair.Docblock
