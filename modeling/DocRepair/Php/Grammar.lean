import DocRepair.Php.KeywordStatements

/-!
The grammar of PHP source.

Every function reads one construct and gives its node. Operators are read as flat sequences of
operands: their precedence does not change which members are accessed and what is declared.
The argument `fuel` bounds the depth of the recursion; it is computed from the count of tokens.
-/

namespace DocRepair.Php.Grammar

open Reader

/-- Operators between two operands. -/
def binarySigns : List String :=
  ["+", "-", "*", "/", "%", "**", ".", "<<", ">>", "&", "|", "^", "&&", "||", "??", "==", "!=",
    "<>", "===", "!==", "<", ">", "<=", ">=", "<=>"]

/-- Words that are operators between two operands. -/
def binaryWords : List Text :=
  ["and", "or", "xor", "instanceof"]

/-- Operators that assign to their left operand. -/
def assignmentSigns : List String :=
  ["=", "+=", "-=", "*=", "/=", ".=", "%=", "**=", "??=", "&=", "|=", "^=", "<<=", ">>="]

/-- Operators in front of an operand. -/
def unarySigns : List String :=
  ["!", "~", "-", "+", "@", "++", "--"]

def unaryWords : List Text :=
  ["clone", "print", "include", "include_once", "require", "require_once", "throw"]

def reservedWords : List Text :=
  (["if", "elseif", "else", "endif", "while", "endwhile", "do", "for", "endfor", "foreach",
    "endforeach", "switch", "endswitch", "case", "default", "break", "continue", "return", "echo",
    "class", "interface", "trait", "abstract", "final", "private", "protected", "public", "const",
    "use", "try", "catch", "finally", "goto", "as", "insteadof", "extends", "implements",
    "namespace", "var", "global", "unset", "declare", "enddeclare", "and", "or", "xor",
    "instanceof"] : List String).map Text.ofString

/-- Words in front of a member or a promoted parameter. -/
def modifierWords : List Text :=
  ["public", "protected", "private", "static", "abstract", "final", "readonly", "var"]

def classModifierWords : List Text :=
  ["abstract", "final", "readonly"]

/-- Whether a token can only follow a value. -/
private def endsValue : Option TokenKind → Bool
  | none => true
  | some (.sign s) => [")", "]", "\x7d", ",", ";"].contains s
  | some _ => false

private def isSign (s : String) (k : Option TokenKind) : Bool := k == some (.sign s)

private def isName : Option TokenKind → Bool
  | some (.name _) => true
  | _ => false

private def isWord (w : Text) (k : Option TokenKind) : Bool := wordOf k == some w

/-- Whether the bracket that closes this place is followed by an equals sign. -/
private def closesBeforeEquals : (depth : Nat) → List Token → Bool
  | _, [] => false
  | depth, t :: rest =>
    match t.kind with
    | .sign s =>
      if ["[", "#[", "(", "\x7b", "$\x7b"].contains s then closesBeforeEquals (depth + 1) rest
      else if ["]", ")", "\x7d"].contains s then
        if depth = 1 then isSign "=" ((skipSections rest).head?.map (·.kind))
        else closesBeforeEquals (depth - 1) rest
      else closesBeforeEquals depth rest
    | _ => closesBeforeEquals depth rest

def isTargetList : Reader Bool := do
  return closesBeforeEquals 0 (← get).tokens

/-- Reads the modifiers of a member; one may be restricted to writing. -/
def modifiers : Reader (List Unit) :=
  readUntil (return !(← atAnyWord modifierWords)) do
    let _ ← next
    if (← atSign "(") && isWord "set" (← peekSecond) then
      let _ ← next
      let _ ← next
      expect ")"

/-- Reads names of classes with commas between them. -/
def nameList : Reader (List Node) := sepBy1 qualifiedName

mutual

def typePart (fuel : Nat) : Reader Unit :=
  match fuel with
  | 0 => failure
  | fuel + 1 => do
    if ← accept "(" then
      let _ ← typeOf fuel
      expect ")"
    else
      let _ ← qualifiedName

/-- Reads a type: a part that may be null, or parts with bars and ampersands between them. An
ampersand in front of a variable is not part of a type. -/
def typeOf (fuel : Nat) : Reader Node :=
  match fuel with
  | 0 => failure
  | fuel + 1 => node .other do
    if ← accept "?" then
      typePart fuel
      return []
    typePart fuel
    let atEnd : Reader Bool := do
      if ← atSign "|" then return false
      else if ← atSign "&" then
        let second ← peekSecond
        return second == some .variable || isSign "..." second || isSign "&" second
      else return true
    let _ ← readUntil atEnd do
      let _ ← next
      typePart fuel
    return []

end

mutual

/-- Reads the attributes in front of a declaration. -/
def attributes (fuel : Nat) : Reader (List Node) :=
  match fuel with
  | 0 => failure
  | fuel + 1 => readUntil (return !(← atSign "#[")) <| node .other do
    let _ ← next
    if ← atSign "]" then failure
    let found ← listUpTo "]" do
      let name ← qualifiedName
      if ← atSign "(" then return [name, ← arguments fuel] else return [name]
    return found.flatten

def arguments (fuel : Nat) : Reader Node :=
  match fuel with
  | 0 => failure
  | fuel + 1 => node .other do
    expect "("
    if (← atSign "...") && isSign ")" (← peekSecond) then
      let _ ← next
      let _ ← next
      return []
    listUpTo ")" do
      if isName (← peek) && isSign ":" (← peekSecond) then
        let _ ← next
        let _ ← next
      let _ ← accept "..."
      let _ ← accept "&"
      expression fuel

def expression (fuel : Nat) : Reader Node :=
  match fuel with
  | 0 => failure
  | fuel + 1 => do
    let first ← operand fuel
    let atEnd : Reader Bool := do
      match ← peek with
      | some (.sign s) => return !(binarySigns.contains s || s == "?")
      | some (.name t) => return !((wordOf (some (.name t))).any binaryWords.contains)
      | _ => return true
    if ← atEnd then return first
    nodeFrom .other first do
      let more ← readUntil atEnd do
        let token ← next
        if token.kind == .sign "?" then
          if ← accept ":" then return [← operand fuel]
          let middle ← expression fuel
          expect ":"
          return [middle, ← operand fuel]
        else return [← operand fuel]
      return first :: more.flatten

/-- Reads an operand: operators in front, a value, and what is assigned to it. -/
def operand (fuel : Nat) : Reader Node :=
  match fuel with
  | 0 => failure
  | fuel + 1 => do
    let kind ← peek
    match kind with
    | some .cast => node .other do
      let _ ← next
      return [← operand fuel]
    | some (.sign s) =>
      if unarySigns.contains s then
        node .other do
          let _ ← next
          return [← operand fuel]
      else if s == "#[" then
        node .other do
          let found ← attributes fuel
          return found ++ [← closure fuel]
      else assignment fuel
    | some (.name t) =>
      let word := wordOf (some (.name t))
      let second ← peekSecond
      if word.any unaryWords.contains then
        node .other do
          let _ ← next
          return [← expression fuel]
      else if word == some "yield" then yielding fuel
      else if word == some "fn" && (isSign "(" second || isSign "&" second) then closure fuel
      else if word == some "function" then closure fuel
      else if word == some "static" && (isWord "function" second || isWord "fn" second) then
        closure fuel
      else assignment fuel
    | _ => assignment fuel

/-- Reads a generator step. -/
def yielding (fuel : Nat) : Reader Node :=
  match fuel with
  | 0 => failure
  | fuel + 1 => node .other do
    expectWord "yield"
    if ← acceptWord "from" then return [← expression fuel]
    if (← atStatementEnd) || endsValue (← peek) then return []
    let first ← expression fuel
    if ← accept "=>" then return [first, ← expression fuel]
    return [first]

/-- Reads a value and what is assigned to it. -/
def assignment (fuel : Nat) : Reader Node :=
  match fuel with
  | 0 => failure
  | fuel + 1 => do
    let (target, assignable) ← value fuel
    match ← peek with
    | some (.sign s) =>
      if assignable && assignmentSigns.contains s then
        nodeFrom .other target do
          let _ ← next
          let _ ← accept "&"
          return [target, ← expression fuel]
      else return target
    | _ => return target

/-- Reads a value with the accesses and calls behind it, and whether it can be assigned to. -/
def value (fuel : Nat) : Reader (Node × Bool) :=
  match fuel with
  | 0 => failure
  | fuel + 1 => do
    if ← atWord "new" then
      let made ← creation fuel
      accesses fuel (← remaining) made false
    else
      let (first, assignable) ← primary fuel
      accesses fuel (← remaining) first assignable

/-- Reads the accesses and calls behind a value, at most so many. -/
def accesses (fuel : Nat) (rounds : Nat) (object : Node) (assignable : Bool) :
    Reader (Node × Bool) :=
  match fuel with
  | 0 => failure
  | fuel + 1 =>
    match rounds with
    | 0 => return (object, assignable)
    | rounds + 1 => do
      match ← peek with
      | some (.sign s) =>
        if s == "->" || s == "?->" then
          let _ ← next
          let name ← memberName fuel
          let object := object.withRole .object
          if ← atSign "(" then
            let found ← nodeFrom (.member (s == "?->") true) object do
              return [object, name, ← arguments fuel]
            accesses fuel rounds found true
          else
            let found ← nodeFrom (.member (s == "?->") false) object do return [object, name]
            accesses fuel rounds found true
        else if s == "::" then
          let _ ← next
          let kind ← peek
          if kind == some .variable || isSign "$" kind then
            let name ← simpleVariable fuel
            if ← atSign "(" then
              let found ← nodeFrom .other object do return [object, name, ← arguments fuel]
              accesses fuel rounds found true
            else
              let found ← nodeFrom .staticProperty object do
                return [object, name.withRole .name]
              accesses fuel rounds found true
          else
            let name ← memberName fuel
            let found ← nodeFrom .other object do
              if ← atSign "(" then return [object, name, ← arguments fuel]
              return [object, name]
            accesses fuel rounds found true
        else if s == "[" then
          let found ← nodeFrom .other object do
            let _ ← next
            if ← accept "]" then return [object]
            let index ← expression fuel
            expect "]"
            return [object, index]
          accesses fuel rounds found true
        else if s == "(" then
          let found ← nodeFrom .other object do return [object, ← arguments fuel]
          accesses fuel rounds found true
        else if s == "++" || s == "--" then
          let found ← nodeFrom .other object do
            let _ ← next
            return [object]
          return (found, false)
        else return (object, assignable)
      | _ => return (object, assignable)

/-- Reads the name of a member: a word, a variable, or an expression between braces. -/
def memberName (fuel : Nat) : Reader Node :=
  match fuel with
  | 0 => failure
  | fuel + 1 => do
    if ← accept "\x7b" then
      let name ← expression fuel
      expect "\x7d"
      return name.withRole .name
    else if ← atName then return (← plainName).withRole .name
    else return (← simpleVariable fuel).withRole .name

/-- Reads a variable, whose name may be that of another variable or an expression. -/
def simpleVariable (fuel : Nat) : Reader Node :=
  match fuel with
  | 0 => failure
  | fuel + 1 => do
    if (← peek) == some .variable then plainVariable
    else node .other do
      expect "$"
      if ← accept "\x7b" then
        let name ← expression fuel
        expect "\x7d"
        return [name]
      return [← simpleVariable fuel]

/-- Reads a value without accesses behind it, and whether it can be assigned to. -/
def primary (fuel : Nat) : Reader (Node × Bool) :=
  match fuel with
  | 0 => failure
  | fuel + 1 => do
    match ← peek with
    | some .variable => return (← plainVariable, true)
    | some .number | some .string => return (← leaf .other, false)
    | some .templateStart => return (← template fuel, false)
    | some (.sign s) =>
      if s == "$" then return (← simpleVariable fuel, true)
      else if s == "(" then
        let inside ← node .other do
          let _ ← next
          let inside ← expression fuel
          expect ")"
          return [inside]
        return (inside, false)
      else if s == "[" then return (← bracketed fuel (← isTargetList), true)
      else failure
    | some (.name t) =>
      let word := (wordOf (some (.name t))).getD []
      let second ← peekSecond
      if (word == ("array" : Text) || word == ("list" : Text)) && isSign "(" second then
        let items ← node .other do
          let _ ← next
          let _ ← next
          arrayItems fuel ")" (word == ("list" : Text))
        return (items, true)
      else if word == ("match" : Text) && isSign "(" second then return (← matching fuel, false)
      else if reservedWords.contains word then failure
      else return (← leaf .other, false)
    | _ => failure

/-- Reads an array between square brackets. -/
def bracketed (fuel : Nat) (isTarget : Bool) : Reader Node :=
  match fuel with
  | 0 => failure
  | fuel + 1 => node .other do
    expect "["
    arrayItems fuel "]" isTarget

/-- Reads an item of an array; inside a list of targets an array is one, too. -/
def arrayItem (fuel : Nat) (isTarget : Bool) : Reader Node :=
  match fuel with
  | 0 => failure
  | fuel + 1 => do
    if isTarget && (← atSign "[") then bracketed fuel true else expression fuel

/-- Reads the items of an array up to its closing sign; only in a list of targets items may be left
out. -/
def arrayItems (fuel : Nat) (close : String) (isTarget : Bool) : Reader (List Node) :=
  match fuel with
  | 0 => failure
  | fuel + 1 => do
    let found ← listUpTo close do
      if ← atSign "," then
        if isTarget then return [] else failure
      let _ ← accept "..."
      let _ ← accept "&"
      let first ← arrayItem fuel isTarget
      if ← accept "=>" then
        let _ ← accept "&"
        return [first, ← arrayItem fuel isTarget]
      return [first]
    return found.flatten

/-- Reads a string with variable parts. -/
def template (fuel : Nat) : Reader Node :=
  match fuel with
  | 0 => failure
  | fuel + 1 => node .other do
    let _ ← next
    let parts ← readUntil (return (← peek) == some .templateEnd) do
      let token ← next
      if token.kind == .sign "\x7b" || token.kind == .sign "$\x7b" then
        let part ← expression fuel
        expect "\x7d"
        return part
      else failure
    let _ ← next
    return parts

/-- Reads a choice of values. -/
def matching (fuel : Nat) : Reader Node :=
  match fuel with
  | 0 => failure
  | fuel + 1 => node .other do
    expectWord "match"
    expect "("
    let subject ← expression fuel
    expect ")"
    expect "\x7b"
    let arms ← listUpTo "\x7d" do
      let isDefault := isWord "default" (← peek) &&
        (isSign "=>" (← peekSecond) || isSign "," (← peekSecond))
      let conditions ←
        if isDefault then do
          let _ ← next
          let _ ← accept ","
          pure []
        else
          let first ← expression fuel
          let more ← readUntil (atSign "=>") do
            expect ","
            if ← atSign "=>" then return []
            return [← expression fuel]
          pure (first :: more.flatten)
      expect "=>"
      return conditions ++ [← expression fuel]
    return subject :: arms.flatten

/-- Reads an anonymous function. -/
def closure (fuel : Nat) : Reader Node :=
  match fuel with
  | 0 => failure
  | fuel + 1 => node .other do
    let _ ← acceptWord "static"
    if ← acceptWord "fn" then
      let _ ← accept "&"
      let parameters ← parameterList fuel
      let result ← resultType fuel
      expect "=>"
      return parameters :: result ++ [← expression fuel]
    expectWord "function"
    let _ ← accept "&"
    let parameters ← parameterList fuel
    if ← acceptWord "use" then
      expect "("
      let _ ← listUpTo ")" do
        let _ ← accept "&"
        plainVariable
    let result ← resultType fuel
    return parameters :: result ++ [← block fuel]

def creation (fuel : Nat) : Reader Node :=
  match fuel with
  | 0 => failure
  | fuel + 1 => node .anonymousClass do
    expectWord "new"
    let attributes ← attributes fuel
    if (← atWord "class") || ((← atAnyWord classModifierWords) && isWord "class" (← peekSecond)) then
      return attributes ++ [← anonymousClass fuel]
    if ← atSign "(" then
      let target ← node .other do
        let _ ← next
        let inside ← expression fuel
        expect ")"
        return [inside]
      if ← atSign "(" then return [target, ← arguments fuel]
      return [target]
    let first ←
      if isName (← peek) then
        if (← peekWord).any reservedWords.contains then failure else leaf .other
      else simpleVariable fuel
    let target ← creationTarget fuel (← remaining) first
    if ← atSign "(" then return attributes ++ [target, ← arguments fuel]
    return attributes ++ [target]

/-- Reads the accesses behind the class of a creation, at most so many; calls are not among them. -/
def creationTarget (fuel : Nat) (rounds : Nat) (object : Node) : Reader Node :=
  match fuel with
  | 0 => failure
  | fuel + 1 =>
    match rounds with
    | 0 => return object
    | rounds + 1 => do
      match ← peek with
      | some (.sign s) =>
        if s == "->" || s == "?->" then
          let _ ← next
          let name ← memberName fuel
          let found ← nodeFrom (.member (s == "?->") false) object do
            return [object.withRole .object, name]
          creationTarget fuel rounds found
        else if s == "::" then
          let _ ← next
          let name ← simpleVariable fuel
          let found ← nodeFrom .staticProperty object do return [object, name.withRole .name]
          creationTarget fuel rounds found
        else if s == "[" then
          let found ← nodeFrom .other object do
            let _ ← next
            let index ← expression fuel
            expect "]"
            return [object, index]
          creationTarget fuel rounds found
        else return object
      | _ => return object

/-- Reads a class without a name. -/
def anonymousClass (fuel : Nat) : Reader Node :=
  match fuel with
  | 0 => failure
  | fuel + 1 => node .anonymousClass do
    let _ ← readUntil (return !(← atAnyWord classModifierWords)) next
    expectWord "class"
    let given ← if ← atSign "(" then pure [← arguments fuel] else pure []
    let parents ← classParents
    return given ++ parents ++ [← classBody fuel false]

/-- Reads the classes and interfaces that a class builds on. -/
def classParents : Reader (List Node) := do
  let extended ← if ← acceptWord "extends" then nameList else pure []
  let implemented ← if ← acceptWord "implements" then nameList else pure []
  return extended ++ implemented

/-- Reads the type behind a colon, if there is one. -/
def resultType (fuel : Nat) : Reader (List Node) :=
  match fuel with
  | 0 => failure
  | fuel + 1 => do
    if ← accept ":" then return [(← typeOf fuel).withRole .returnType]
    return []

def parameterList (fuel : Nat) : Reader Node :=
  match fuel with
  | 0 => failure
  | fuel + 1 => do
    let found ← node .other do
      expect "("
      listUpTo ")" (parameter fuel)
    return found.withRole .parameters

def parameter (fuel : Nat) : Reader Node :=
  match fuel with
  | 0 => failure
  | fuel + 1 => node .parameter do
    let attributes ← attributes fuel
    let _ ← modifiers
    let kind ← peek
    let type ←
      if kind == some .variable || isSign "&" kind || isSign "..." kind then pure []
      else pure [(← typeOf fuel).withRole .type]
    let _ ← accept "&"
    let _ ← accept "..."
    let name ← plainVariable
    let initial ← if ← accept "=" then pure [← expression fuel] else pure []
    let hooks ← if ← atSign "\x7b" then pure [← hookList fuel] else pure []
    return attributes ++ type ++ [name.withRole .name] ++ initial ++ hooks

/-- Reads the body of a class; only that of an enumeration has cases. -/
def classBody (fuel : Nat) (hasCases : Bool) : Reader Node :=
  match fuel with
  | 0 => failure
  | fuel + 1 => node .other do
    expect "\x7b"
    let members ← readUntil (atSign "\x7d") (member fuel hasCases)
    expect "\x7d"
    return members

def member (fuel : Nat) (hasCases : Bool) : Reader Node :=
  match fuel with
  | 0 => failure
  | fuel + 1 => do
    let start ← here
    let attributes ← attributes fuel
    if ← atWord "use" then nodeAt start .other (traitUse fuel)
    else if hasCases && (← atWord "case") then
      nodeAt start .other do
        let _ ← next
        let name ← plainName
        let given ← if ← accept "=" then pure [← expression fuel] else pure []
        semicolon
        return attributes ++ [name] ++ given
    else
      let found ← modifiers
      if ← atWord "function" then
        nodeAt start .methodDeclaration do
          return attributes ++ (← signature fuel)
      else if ← atWord "const" then
        nodeAt start .other do return attributes ++ (← constants fuel)
      else if found.isEmpty then failure
      else nodeAt start .propertyDeclaration do
        let type ← if (← peek) == some .variable then pure []
          else pure [(← typeOf fuel).withRole .type]
        let elements ← sepBy1 <| node .propertyElement do
          let name ← plainVariable
          let initial ← if ← accept "=" then pure [← expression fuel] else pure []
          return name :: initial
        let hooks ← if ← atSign "\x7b" then pure [← hookList fuel]
          else do
            semicolon
            pure []
        return attributes ++ type ++ elements ++ hooks

/-- Reads a function from its keyword on: name, parameters, result type and body or semicolon. -/
def signature (fuel : Nat) : Reader (List Node) :=
  match fuel with
  | 0 => failure
  | fuel + 1 => do
    expectWord "function"
    let _ ← accept "&"
    let name ← plainName
    let parameters ← parameterList fuel
    let result ← resultType fuel
    let body ← if ← atSign "\x7b" then pure [(← block fuel).withRole .body]
      else do
        semicolon
        pure []
    return name.withRole .name :: parameters :: result ++ body

/-- Reads constants from their keyword on. -/
def constants (fuel : Nat) : Reader (List Node) :=
  match fuel with
  | 0 => failure
  | fuel + 1 => do
    expectWord "const"
    let type ← if isSign "=" (← peekSecond) then pure [] else pure [← typeOf fuel]
    let elements ← sepBy1 do
      let name ← plainName
      expect "="
      return [name, ← expression fuel]
    semicolon
    return type ++ elements.flatten

/-- Reads the use of traits, with the rules for their members. -/
def traitUse (fuel : Nat) : Reader (List Node) :=
  match fuel with
  | 0 => failure
  | _ + 1 => do
    expectWord "use"
    let names ← nameList
    if ← accept "\x7b" then
      let _ ← readUntil (atSign "\x7d") do
        let _ ← qualifiedName
        if ← accept "::" then
          let _ ← plainName
        if ← acceptWord "insteadof" then
          let _ ← nameList
        else
          expectWord "as"
          let _ ← plainName
          if isName (← peek) then
            let _ ← next
        semicolon
      expect "\x7d"
    else semicolon
    return names

def hookList (fuel : Nat) : Reader Node :=
  match fuel with
  | 0 => failure
  | fuel + 1 => node .other do
    expect "\x7b"
    let hooks ← readUntil (atSign "\x7d") do
      let attributes ← attributes fuel
      let _ ← modifiers
      let _ ← accept "&"
      let name ← plainName
      let parameters ← if ← atSign "(" then pure [← parameterList fuel] else pure []
      let body ←
        if ← atSign "\x7b" then pure [← block fuel]
        else if ← accept "=>" then do
          let result ← expression fuel
          semicolon
          pure [result]
        else do
          semicolon
          pure []
      return attributes ++ [name] ++ parameters ++ body
    expect "\x7d"
    return hooks.flatten

/-- Reads statements between braces. -/
def block (fuel : Nat) : Reader Node :=
  match fuel with
  | 0 => failure
  | fuel + 1 => node .other do
    expect "\x7b"
    let inside ← readUntil (atSign "\x7d") (statement fuel)
    expect "\x7d"
    return inside

def statementsUpTo (fuel : Nat) (words : List Text) : Reader (List Node) :=
  match fuel with
  | 0 => failure
  | fuel + 1 => readUntil (atAnyWord words) (statement fuel)

/-- Reads the body of a loop: a statement, or statements between a colon and an end word. -/
def loopBody (fuel : Nat) (endWord : Text) : Reader (List Node) :=
  match fuel with
  | 0 => failure
  | fuel + 1 => do
    if ← accept ":" then
      let inside ← statementsUpTo fuel [endWord]
      expectWord endWord
      semicolon
      return inside
    return [← statement fuel]

/-- Reads an expression between round brackets. -/
def condition (fuel : Nat) : Reader Node :=
  match fuel with
  | 0 => failure
  | fuel + 1 => do
    expect "("
    let inside ← expression fuel
    expect ")"
    return inside

/-- Reads a conditional statement from its keyword on. -/
def conditional (fuel : Nat) : Reader (List Node) :=
  match fuel with
  | 0 => failure
  | fuel + 1 => do
    expectWord "if"
    let first ← condition fuel
    if ← accept ":" then
      let stops : List Text := ["elseif", "else", "endif"]
      let main ← statementsUpTo fuel stops
      let others ← readUntil (return !(← atWord "elseif")) do
        let _ ← next
        let test ← condition fuel
        expect ":"
        return test :: (← statementsUpTo fuel stops)
      let last ← if ← acceptWord "else" then do
          expect ":"
          statementsUpTo fuel ["endif"]
        else pure []
      expectWord "endif"
      semicolon
      return first :: main ++ others.flatten ++ last
    let main ← statement fuel
    let others ← readUntil (return !(← atWord "elseif")) do
      let _ ← next
      let test ← condition fuel
      return [test, ← statement fuel]
    let last ← if ← acceptWord "else" then pure [← statement fuel] else pure []
    return [first, main] ++ others.flatten ++ last

def switchCases (fuel : Nat) (atEnd : Reader Bool) : Reader (List Node) :=
  match fuel with
  | 0 => failure
  | fuel + 1 => do
    let found ← readUntil atEnd do
      let test ←
        if ← acceptWord "case" then pure [← expression fuel]
        else do
          expectWord "default"
          pure []
      if !(← accept ":") then expect ";"
      let stop : Reader Bool := do return (← atAnyWord ["case", "default"]) || (← atEnd)
      return test ++ (← readUntil stop (statement fuel))
    return found.flatten

/-- Reads a guarded block from its keyword on. -/
def guarded (fuel : Nat) : Reader (List Node) :=
  match fuel with
  | 0 => failure
  | fuel + 1 => do
    expectWord "try"
    let main ← block fuel
    let handlers ← readUntil (return !(← atAnyWord ["catch", "finally"])) do
      if ← acceptWord "finally" then return [← block fuel]
      expectWord "catch"
      expect "("
      let type ← typeOf fuel
      let caught ← if (← peek) == some .variable then pure [← plainVariable] else pure []
      expect ")"
      return type :: caught ++ [← block fuel]
    if handlers.isEmpty then failure
    return main :: handlers.flatten

def importNames (fuel : Nat) : Reader (List Node) :=
  match fuel with
  | 0 => failure
  | _ + 1 => do
    expectWord "use"
    let kind : Reader Unit := do
      if (← atAnyWord ["function", "const"]) && isName (← peekSecond) then
        let _ ← next
    let otherName : Reader Unit := do
      if ← acceptWord "as" then
        let _ ← plainName
    kind
    let names ← sepBy1 do
      kind
      let name ← qualifiedName
      if ← accept "\\" then
        expect "\x7b"
        let inside ← listUpTo "\x7d" do
          kind
          let name ← qualifiedName
          otherName
          return name
        return name :: inside
      otherName
      return [name]
    semicolon
    return names.flatten

/-- Reads a class, interface, trait or enumeration from its modifiers on. -/
def classDeclaration (fuel : Nat) : Reader (ClassKind × List Node) :=
  match fuel with
  | 0 => failure
  | fuel + 1 => do
    let _ ← readUntil (return !(← atAnyWord classModifierWords)) next
    let named : Reader Node := do return (← plainName).withRole .name
    if ← acceptWord "class" then
      let name ← named
      let parents ← classParents
      return (.plain, name :: parents ++ [← classBody fuel false])
    else if ← acceptWord "interface" then
      let name ← named
      let parents ← if ← acceptWord "extends" then nameList else pure []
      return (.interface, name :: parents ++ [← classBody fuel false])
    else if ← acceptWord "trait" then
      let name ← named
      return (.trait, [name, ← classBody fuel false])
    else
      expectWord "enum"
      let name ← named
      let backing ← if ← accept ":" then pure [← typeOf fuel] else pure []
      let parents ← if ← acceptWord "implements" then nameList else pure []
      return (.enum, name :: backing ++ parents ++ [← classBody fuel true])

/-- Reads a statement that begins with a keyword, if it does. -/
def keywordStatement? (fuel : Nat) (word : Text) : Reader (Option (List Node)) :=
  match fuel with
  | 0 => failure
  | fuel + 1 => do
    let second ← peekSecond
    if word == ("if" : Text) then return some (← conditional fuel)
    else if word == ("while" : Text) then
      return some (← whileLoop (condition fuel) (loopBody fuel "endwhile"))
    else if word == ("do" : Text) then return some (← doLoop (statement fuel) (condition fuel))
    else if word == ("for" : Text) then
      return some (← forLoop (expression fuel) (loopBody fuel "endfor"))
    else if word == ("foreach" : Text) then
      return some (← foreachLoop (expression fuel) (arrayItem fuel true)
        (loopBody fuel "endforeach"))
    else if word == ("switch" : Text) then
      return some (← choice (condition fuel) (switchCases fuel (atWord "endswitch"))
        (switchCases fuel (atSign "\x7d")))
    else if word == ("break" : Text) || word == ("continue" : Text) then
      return some (← leave (expression fuel))
    else if word == ("echo" : Text) then return some (← listed (expression fuel))
    else if word == ("unset" : Text) then return some (← removal (expression fuel))
    else if word == ("global" : Text) then return some (← listed (simpleVariable fuel))
    else if word == ("static" : Text) && second == some .variable then
      return some (← statics (expression fuel))
    else if word == ("goto" : Text) then return some (← jump)
    else if word == ("try" : Text) then return some (← guarded fuel)
    else if word == ("declare" : Text) then
      return some (← settings (expression fuel) (loopBody fuel "enddeclare"))
    else if word == ("const" : Text) then return some (← constants fuel)
    else if word == ("use" : Text) then return some (← importNames fuel)
    else return none

def statement (fuel : Nat) : Reader Node :=
  match fuel with
  | 0 => failure
  | fuel + 1 => do
    let start ← here
    if ← atSign "\x7b" then block fuel
    else if ← accept ";" then nodeAt start .other (return [])
    else
      let attributes ← attributes fuel
      let second ← peekSecond
      let third ← peekThird
      match ← peekWord with
      | none => expressionStatement fuel start attributes
      | some word =>
        if word == ("return" : Text) then
          nodeAt start .returnStatement (leave (expression fuel))
        else if word == ("function" : Text) &&
            (isName second || (isSign "&" second && isName third)) then
          nodeAt start .functionDefinition do
            return attributes ++ (← signature fuel)
        else if (["class", "interface", "trait", "enum"] : List Text).contains word && isName second ||
            classModifierWords.contains word && isName second then
          let (kind, inside) ← classDeclaration fuel
          nodeAt start (.classLike kind) (return attributes ++ inside)
        else if word == ("namespace" : Text) then
          nodeAt start .namespaceDefinition do
            let _ ← next
            let name ← if isName (← peek) then pure [(← qualifiedName).withRole .name] else pure []
            if ← atSign "\x7b" then return name ++ [← block fuel]
            if name.isEmpty then failure
            semicolon
            return name
        else if isSign ":" second && !reservedWords.contains word then
          nodeAt start .other do
            let _ ← next
            let _ ← next
            return []
        else
          match ← keywordStatement? fuel word with
          | some inside => nodeAt start .other (return attributes ++ inside)
          | none => expressionStatement fuel start attributes

def expressionStatement (fuel : Nat) (start : Start) (attributes : List Node) : Reader Node :=
  match fuel with
  | 0 => failure
  | fuel + 1 => nodeAt start .other do
    let inside ← expression fuel
    semicolon
    return attributes ++ [inside]

end

/-- Reads a whole file. -/
def program (fuel : Nat) : Reader Node :=
  node .other (readUntil (do return (← peek).isNone) (statement fuel))

end DocRepair.Php.Grammar

namespace DocRepair.Php

/-- The tree of a source, if it is well formed. -/
def tree? (source : Text) : Option Node := do
  let tokens ← tokens? source
  (Grammar.program (16 * tokens.length + 64)).run' ⟨tokens, 0, 0⟩

end DocRepair.Php
