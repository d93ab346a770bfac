import DocRepair.Pattern.Basic

/-!
Matching by backtracking.

A matcher takes a place in the subject and what is to follow, and gives the first complete match.
Recursion is on the pattern; a repetition ends because every further round has to consume a code
point.
-/

namespace DocRepair

structure Capture where
  start : Nat
  stop : Nat
  text : Text
  deriving DecidableEq, Repr

/-- A place in the subject: what is before it, in reverse, and what is after it. -/
structure Cursor where
  position : Nat
  before : Text
  after : Text
  groups : List (Nat × Capture)
  deriving DecidableEq, Repr

namespace Cursor

def start (subject : Text) : Cursor := ⟨0, [], subject, []⟩

/-- The next place, if there is one. -/
def next? (c : Cursor) : Option (CodePoint × Cursor) :=
  match c.after with
  | [] => none
  | d :: rest => some (d, ⟨c.position + 1, d :: c.before, rest, c.groups⟩)

/-- The place some code points earlier, if there is one. -/
def back? (c : Cursor) (n : Nat) : Option Cursor :=
  if n ≤ c.before.length then
    some ⟨c.position - n, c.before.drop n, (c.before.take n).reverse ++ c.after, c.groups⟩
  else none

/-- The place after a text that has to come next. -/
def expect? (same : CodePoint → CodePoint → Bool) : Text → Cursor → Option Cursor
  | [], c => some c
  | d :: rest, c =>
    match c.next? with
    | some (e, c') => if same d e then expect? same rest c' else none
    | none => none

/-- What a group has matched last. -/
def group? (c : Cursor) (n : Nat) : Option Capture :=
  c.groups.lookup n

/-- Records that a group has matched from an earlier place up to here. -/
def close (n : Nat) (opened c : Cursor) : Cursor :=
  let text := opened.after.take (c.position - opened.position)
  { c with groups := (n, ⟨opened.position, c.position, text⟩) :: c.groups.filter (·.1 != n) }

private def isWordAt (isWord : CodePoint → Bool) (t : Text) : Bool :=
  t.head?.any isWord

/-- Whether a word of a class begins or ends here. -/
private def isEdge (isWord : CodePoint → Bool) (c : Cursor) : Bool :=
  isWordAt isWord c.before != isWordAt isWord c.after

private def isInside (isWord : CodePoint → Bool) (c : Cursor) : Bool :=
  !(c.before.isEmpty && c.after.isEmpty) && !c.isEdge isWord

/-- Whether an anchor holds at a place. -/
def isAt (c : Cursor) : Anchor → Bool
  | .textStart => c.before.isEmpty
  | .textEnd => c.after.isEmpty
  | .lastLineEnd => c.after.isEmpty || c.after == Text.newline
  | .lineStart => c.before.isEmpty || c.before.head? == some '\n'
  | .lineEnd => c.after.isEmpty || c.after.head? == some '\n'
  | .wordEdge => c.isEdge CodePoint.isWord
  | .noWordEdge => c.isInside CodePoint.isWord
  | .asciiWordEdge => c.isEdge CodePoint.isAsciiWord
  | .asciiNoWordEdge => c.isInside CodePoint.isAsciiWord

end Cursor

/-- A matcher: from a place, through what follows, to the end of the first match. -/
abbrev Matcher := Cursor → (Cursor → Option Cursor) → Option Cursor

namespace Matcher

/-- Further rounds of a matcher; a round that consumes nothing is the last one. -/
def further (body : Matcher) (appetite : Appetite) : (fuel : Nat) → (most : Option Nat) → Matcher
  | 0, _, c, k => k c
  | fuel + 1, most, c, k =>
    if most = some 0 then k c
    else
      let another := fun _ : Unit => body c fun d =>
        if d.position = c.position then k d
        else further body appetite fuel (most.map (· - 1)) d k
      match appetite with
      | .greedy =>
        match another () with
        | some d => some d
        | none => k c
      | .lazy =>
        match k c with
        | some d => some d
        | none => another ()

/-- The least count of rounds of a matcher, and further ones. -/
def rounds (body : Matcher) (appetite : Appetite) : (least : Nat) → (most : Option Nat) → Matcher
  | 0, most, c, k => further body appetite (c.after.length + 1) most c k
  | least + 1, most, c, k =>
    body c fun d => rounds body appetite least (most.map (· - 1)) d k

end Matcher

namespace Pattern

def run : Pattern → Matcher
  | .empty => fun c k => k c
  | .set s => fun c k =>
    match c.next? with
    | some (d, c') => if s.holds d then k c' else none
    | none => none
  | .seq p q => fun c k => p.run c fun d => q.run d k
  | .alt p q => fun c k =>
    match p.run c k with
    | some d => some d
    | none => q.run c k
  | .rep least most appetite p => Matcher.rounds p.run appetite least most
  | .group n p => fun c k => p.run c fun d => k (Cursor.close n c d)
  | .again n likeness => fun c k =>
    match c.group? n with
    | some capture =>
      match c.expect? likeness.holds capture.text with
      | some d => k d
      | none => none
    | none => none
  | .ahead wanted p => fun c k =>
    match p.run c some with
    | some d => if wanted then k { c with groups := d.groups } else none
    | none => if wanted then none else k c
  | .behind wanted width p => fun c k =>
    match (c.back? width).bind fun b => p.run b some with
    | some d => if wanted then k { c with groups := d.groups } else none
    | none => if wanted then none else k c
  | .atomic p => fun c k =>
    match p.run c some with
    | some d => k d
    | none => none
  | .given n yes no => fun c k =>
    if (c.group? n).isSome then yes.run c k else no.run c k
  | .anchor a => fun c k => if c.isAt a then k c else none

theorem run_seq (p q : Pattern) (c : Cursor) (k : Cursor → Option Cursor) :
    (p.seq q).run c k = p.run c fun d => q.run d k := by
  rw [run]

end Pattern

structure Match where
  start : Nat
  stop : Nat
  /-- The subject after the match. -/
  rest : Text
  groups : List (Nat × Capture)
  deriving DecidableEq, Repr

def Match.group? (m : Match) (n : Nat) : Option Text :=
  (m.groups.lookup n).map (·.text)

namespace Pattern

/-- The match of a pattern that starts at a place. -/
def matchFrom? (p : Pattern) (c : Cursor) : Option Match :=
  (p.run c some).map fun d => ⟨c.position, d.position, d.after, d.groups⟩

/-- The match of a pattern at the start of a subject. -/
def match? (p : Pattern) (subject : Text) : Option Match :=
  p.matchFrom? (.start subject)

/-- The first match of a pattern from a place on. -/
def searchFrom (p : Pattern) (position : Nat) (before : Text) : (after : Text) → Option Match
  | [] => p.matchFrom? ⟨position, before, [], []⟩
  | c :: rest =>
    match p.matchFrom? ⟨position, before, c :: rest, []⟩ with
    | some m => some m
    | none => searchFrom p (position + 1) (c :: before) rest

/-- The first match of a pattern in a subject. -/
def search? (p : Pattern) (subject : Text) : Option Match :=
  p.searchFrom 0 [] subject

/-- Whether a pattern matches somewhere in a subject. -/
def occursIn (p : Pattern) (subject : Text) : Bool :=
  (p.search? subject).isSome

/-- The text of a group in the first match. -/
def find? (p : Pattern) (n : Nat) (subject : Text) : Option Text :=
  (p.search? subject).bind (·.group? n)

end Pattern

end DocRepair
