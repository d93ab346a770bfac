import DocRepair.Text.Blank
import DocRepair.Text.Digit
import DocRepair.Text.LetterCase
import DocRepair.Text.Word

namespace DocRepair

/-- The named classes of code points. -/
inductive CharClass where
  | digit
  | blank
  | word
  | asciiDigit
  | asciiBlank
  | asciiWord
  deriving DecidableEq, Repr

namespace CharClass

def holds : CharClass → CodePoint → Bool
  | .digit, c => c.isDecimal
  | .blank, c => c.isBlank
  | .word, c => c.isWord
  | .asciiDigit, c => c.isAsciiDigit
  | .asciiBlank, c => c.isAsciiBlank
  | .asciiWord, c => c.isAsciiWord

/-- The class with the code points below U+0080 only. -/
def ascii : CharClass → CharClass
  | .digit | .asciiDigit => .asciiDigit
  | .blank | .asciiBlank => .asciiBlank
  | .word | .asciiWord => .asciiWord

end CharClass

inductive SetItem where
  | one (c : CodePoint)
  | range (low high : CodePoint)
  | named (cls : CharClass) (negated : Bool)
  deriving DecidableEq, Repr

namespace SetItem

def holds : SetItem → CodePoint → Bool
  | .one d, c => d == c
  | .range low high, c => low.val ≤ c.val && c.val ≤ high.val
  | .named cls negated, c => cls.holds c != negated

/-- Whether an item holds a code point but for case. -/
def holdsAnyCase : SetItem → CodePoint → Bool
  | .one d, c => d.sameLetter c
  | .range low high, c => c.letterForms.any fun d => low.val ≤ d.val && d.val ≤ high.val
  | .named cls negated, c => cls.holds c.lower != negated

/-- The item with the classes of the code points below U+0080. -/
def ascii : SetItem → SetItem
  | .named cls negated => .named cls.ascii negated
  | item => item

/-- Items that hold what an item holds, the letters of seven bits in both cases. -/
def inBothCases (item : SetItem) : List SetItem :=
  item :: ((asciiLetters.filter item.holds).map fun c => .one c.otherAsciiCase)

end SetItem

structure CharSet where
  items : List SetItem
  negated : Bool := false
  anyCase : Bool := false
  deriving DecidableEq, Repr

def CharSet.holds (s : CharSet) (c : CodePoint) : Bool :=
  (s.items.any fun item => if s.anyCase then item.holdsAnyCase c else item.holds c) != s.negated

/-- Places in a text that a pattern may ask for. -/
inductive Anchor where
  /-- The start of the text. -/
  | textStart
  /-- The end of the text. -/
  | textEnd
  /-- The end of the text, or the place before a line feed that ends it. -/
  | lastLineEnd
  /-- The start of any line. -/
  | lineStart
  /-- The end of any line. -/
  | lineEnd
  /-- A place with a word character on exactly one side. -/
  | wordEdge
  /-- A place with a word character on both sides or on none; the empty text has no such place. -/
  | noWordEdge
  | asciiWordEdge
  | asciiNoWordEdge
  deriving DecidableEq, Repr

/-- The anchor with the word characters below U+0080 only. -/
def Anchor.ascii : Anchor → Anchor
  | .wordEdge => .asciiWordEdge
  | .noWordEdge => .asciiNoWordEdge
  | a => a

/-- When a code point counts as another one. -/
inductive Likeness where
  | exact
  | anyCase
  | anyAsciiCase
  deriving DecidableEq, Repr

def Likeness.holds : Likeness → CodePoint → CodePoint → Bool
  | .exact, c, d => c == d
  | .anyCase, c, d => c.lower == d.lower
  | .anyAsciiCase, c, d => c.lowerAscii == d.lowerAscii

/-- Which of several repetition counts is tried first. -/
inductive Appetite where
  | greedy
  | lazy
  deriving DecidableEq, Repr

inductive Pattern where
  | empty
  | set (s : CharSet)
  | seq (p q : Pattern)
  | alt (p q : Pattern)
  | rep (least : Nat) (most : Option Nat) (appetite : Appetite) (p : Pattern)
  | group (n : Nat) (p : Pattern)
  | again (n : Nat) (likeness : Likeness)
  | ahead (wanted : Bool) (p : Pattern)
  | behind (wanted : Bool) (width : Nat) (p : Pattern)
  | atomic (p : Pattern)
  | given (n : Nat) (yes no : Pattern)
  | anchor (a : Anchor)
  deriving Repr

namespace Pattern

/-- The pattern of one code point. -/
def one (c : CodePoint) : Pattern :=
  .set ⟨[.one c], false, false⟩

/-- The pattern of one code point in either case. -/
def oneAnyCase (c : CodePoint) : Pattern :=
  .set ⟨[.one c], false, true⟩

/-- Patterns one after the other. -/
def all : List Pattern → Pattern
  | [] => .empty
  | [p] => p
  | p :: q :: rest => .seq p (all (q :: rest))

/-- The first pattern that works. -/
def anyOf : List Pattern → Pattern
  | [] => .ahead false .empty
  | [p] => p
  | p :: q :: rest => .alt p (anyOf (q :: rest))

/-- A text standing for itself. -/
def exactly (t : Text) : Pattern :=
  all (t.map one)

/-- A text standing for itself in any case. -/
def anyCase (t : Text) : Pattern :=
  all (t.map oneAnyCase)

/-- A code point of a named class. -/
def cls (k : CharClass) : Pattern :=
  .set ⟨[.named k false], false, false⟩

/-- Any code point but a line feed. -/
def notNewline : Pattern :=
  .set ⟨[.one '\n'], true, false⟩

def anything : Pattern :=
  .set ⟨[], true, false⟩

def many (p : Pattern) : Pattern :=
  .rep 0 none .greedy p

/-- As many repetitions as possible and at least one. -/
def many1 (p : Pattern) : Pattern :=
  .rep 1 none .greedy p

def optional (p : Pattern) : Pattern :=
  .rep 0 (some 1) .greedy p

/-- A run of white space. -/
def blanks : Pattern := many1 (cls .blank)

def word : Pattern := many1 (cls .word)

/-- A class name, qualified or not: word characters and backslashes. -/
def className : Pattern :=
  many1 (.set ⟨[.one '\\', .named .word false], false, false⟩)

/-- The rest of the line, as long as possible. -/
def restOfLine : Pattern := many notNewline

end Pattern

end DocRepair
