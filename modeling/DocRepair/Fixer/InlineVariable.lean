import DocRepair.Fixer.Basic
import DocRepair.Issue.Message

namespace DocRepair.Fixer

open Pattern

/-- Messages about a variable that is not defined. -/
def undefinedVariable : List Pattern :=
  [anyCase "undefined variable", all [anyCase "variable", restOfLine, anyCase "is undefined"]]

def undefinedVariableName? (message : Text) : Option Text :=
  Message.firstName?
    [all [anyCase "variable:", many (cls .blank), exactly "$", .group 1 word],
      all [anyCase "variable", blanks, exactly "$", .group 1 word]] message

def inlineDeclaration (variableName : Text) : Pattern :=
  all [exactly "@var", blanks, many1 (.set ⟨[.named .blank true], false, false⟩), blanks,
    exactly variableName, .anchor .wordEdge]

def inlineBlock (variableName : Text) : Text :=
  "/** @var mixed " ++ variableName ++ " */"

/-- The lines with an inline docblock above an index. -/
def insertInline (lines : List Text) (index : Nat) (block : Text) : List Text :=
  let target := (lines[index]?).getD []
  let new := target.indent ++ block
  match index with
  | 0 => new :: lines
  | above + 1 =>
    if ((lines[above]?).getD []).strip.isEmpty then replaceLines lines above above [new]
    else lines.take index ++ [new] ++ lines.drop index

/-- Declares a variable above its use. -/
def fixUndefinedVariable (issue : Issue) (content : Text) : FixResult :=
  match undefinedVariableName? issue.message with
  | none => .failure issue content "Could not extract variable name"
  | some name =>
    let ending := LineEnding.detect content
    let lines := ending.split content
    if issue.line < 1 || (lines.length : Int) < issue.line then
      .failure issue content "Invalid line number"
    else
      let index := (issue.line - 1).toNat
      let variableName : Text := "$" ++ name
      let previous := if index = 0 then none else lines[index - 1]?
      if previous.any (inlineDeclaration variableName).occursIn then
        .failure issue content ("Inline @var annotation already exists for " ++ variableName)
      else
        let block := inlineBlock variableName
        .success issue (ending.join (insertInline lines index block))
          (some ("Added inline @var annotation for " ++ variableName))
          ["Added " ++ block ++ " at line " ++ Text.ofInt issue.line]

end DocRepair.Fixer
