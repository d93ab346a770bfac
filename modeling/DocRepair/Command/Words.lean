import DocRepair.Text.CodePoint

namespace DocRepair.Command

/-- Why a command line has no words. -/
inductive WordsFault where
  | openQuote
  | openEscape
  deriving DecidableEq, Repr

def WordsFault.message : WordsFault → Text
  | .openQuote => "No closing quotation"
  | .openEscape => "No escaped character"

def isGap (c : CodePoint) : Bool := c.isOneOf " \t\r\n"

/-- Where in a command line a code point stands. -/
inductive Quoting where
  | bare
  | single
  | double
  deriving DecidableEq, Repr

/-- The words from a place on; `word` is the one that has been begun. Between double quotes a
backslash stands for itself unless a double quote or a backslash follows. -/
def wordsFrom : Quoting → (word : Option Text) → Text → Except WordsFault (List Text)
  | .bare, word, [] => .ok word.toList
  | .single, _, [] | .double, _, [] => .error .openQuote
  | .bare, word, [c] =>
    if isGap c then .ok word.toList
    else if c = '\\' then .error .openEscape
    else if c = '\'' || c = '"' then .error .openQuote
    else .ok [word.getD [] ++ [c]]
  | .single, word, [c] => if c = '\'' then .ok [word.getD []] else .error .openQuote
  | .double, word, [c] =>
    if c = '"' then .ok [word.getD []]
    else if c = '\\' then .error .openEscape
    else .error .openQuote
  | .bare, word, c :: d :: rest =>
    if isGap c then (wordsFrom .bare none (d :: rest)).map (word.toList ++ ·)
    else if c = '\\' then wordsFrom .bare (some (word.getD [] ++ [d])) rest
    else if c = '\'' then wordsFrom .single (some (word.getD [])) (d :: rest)
    else if c = '"' then wordsFrom .double (some (word.getD [])) (d :: rest)
    else wordsFrom .bare (some (word.getD [] ++ [c])) (d :: rest)
  | .single, word, c :: d :: rest =>
    if c = '\'' then wordsFrom .bare (some (word.getD [])) (d :: rest)
    else wordsFrom .single (some (word.getD [] ++ [c])) (d :: rest)
  | .double, word, c :: d :: rest =>
    if c = '"' then wordsFrom .bare (some (word.getD [])) (d :: rest)
    else if c = '\\' then
      wordsFrom .double
        (some (word.getD [] ++ if d = '"' || d = '\\' then [d] else [c, d])) rest
    else wordsFrom .double (some (word.getD [] ++ [c])) (d :: rest)

def words (line : Text) : Except WordsFault (List Text) :=
  wordsFrom .bare none line

end DocRepair.Command
