import DocRepair.Php.Reading

namespace DocRepair.Php.Grammar

open Reader

/-- Reads a keyword and the expression that may stand behind it. -/
def leave (expression : Reader Node) : Reader (List Node) := do
  let _ ← next
  let value ← if ← atStatementEnd then pure [] else pure [← expression]
  semicolon
  return value

/-- Reads a keyword and items with commas between them. -/
def listed {α : Type} (item : Reader α) : Reader (List α) := do
  let _ ← next
  let items ← sepBy1 item
  semicolon
  return items

def whileLoop (condition : Reader Node) (body : Reader (List Node)) : Reader (List Node) := do
  let _ ← next
  let test ← condition
  return test :: (← body)

def doLoop (statement condition : Reader Node) : Reader (List Node) := do
  let _ ← next
  let body ← statement
  expectWord "while"
  let test ← condition
  semicolon
  return [body, test]

/-- Reads one of the three parts in the head of a `for` loop; it may be empty. -/
def loopExpressions (expression : Reader Node) (close : String) : Reader (List Node) := do
  let found ← if ← atSign close then pure [] else sepBy1 expression
  expect close
  return found

def forLoop (expression : Reader Node) (body : Reader (List Node)) : Reader (List Node) := do
  let _ ← next
  expect "("
  let first ← loopExpressions expression ";"
  let second ← loopExpressions expression ";"
  let third ← loopExpressions expression ")"
  return first ++ second ++ third ++ (← body)

def foreachLoop (expression target : Reader Node) (body : Reader (List Node)) :
    Reader (List Node) := do
  let _ ← next
  expect "("
  let subject ← expression
  expectWord "as"
  let _ ← accept "&"
  let first ← target
  let second ← if ← accept "=>" then do
      let _ ← accept "&"
      pure [← target]
    else pure []
  expect ")"
  return subject :: first :: second ++ (← body)

/-- Reads a switch. Its cases stand between braces, or behind a colon and up to a word. -/
def choice (condition : Reader Node) (upToWord upToBrace : Reader (List Node)) :
    Reader (List Node) := do
  let _ ← next
  let subject ← condition
  if ← accept ":" then
    let cases ← upToWord
    expectWord "endswitch"
    semicolon
    return subject :: cases
  expect "\x7b"
  let cases ← upToBrace
  expect "\x7d"
  return subject :: cases

def removal (expression : Reader Node) : Reader (List Node) := do
  let _ ← next
  expect "("
  let targets ← listUpTo ")" expression
  semicolon
  return targets

def staticVariable (expression : Reader Node) : Reader (List Node) := do
  let name ← plainVariable
  let initial ← if ← accept "=" then pure [← expression] else pure []
  return name :: initial

def statics (expression : Reader Node) : Reader (List Node) := do
  return (← listed (staticVariable expression)).flatten

def jump : Reader (List Node) := do
  let _ ← next
  let label ← plainName
  semicolon
  return [label]

/-- Reads settings, which hold for the rest of the file or for the statements behind them. -/
def settings (expression : Reader Node) (body : Reader (List Node)) : Reader (List Node) := do
  let _ ← next
  expect "("
  if ← atSign ")" then failure
  let found ← listUpTo ")" do
    let _ ← plainName
    expect "="
    expression
  if ← atStatementEnd then
    semicolon
    return found
  return found ++ (← body)

end DocRepair.Php.Grammar
