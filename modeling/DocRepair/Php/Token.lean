import DocRepair.Text.CodePoint

namespace DocRepair.Php

inductive TokenKind where
  /-- A variable with a plain name. -/
  | variable
  /-- A name, qualified or not, or a keyword. -/
  | name (text : Text)
  | number
  /-- A string without variable parts. -/
  | string
  /-- A cast such as `(int)`. -/
  | cast
  /-- Punctuation and operators. -/
  | sign (text : String)
  /-- The start of a string with variable parts. -/
  | templateStart
  /-- The end of a string with variable parts. -/
  | templateEnd
  /-- The end of a code section with the text up to the next one. -/
  | textSection
  deriving DecidableEq, Repr

/-- A token and its place: offsets into the source, and lines counted from zero. -/
structure Token where
  kind : TokenKind
  start : Nat
  stop : Nat
  firstLine : Nat
  lastLine : Nat
  deriving DecidableEq, Repr

end DocRepair.Php
