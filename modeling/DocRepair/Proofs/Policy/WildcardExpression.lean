import DocRepair.Proofs.Pattern.SpelledExpression
import DocRepair.Proofs.Policy.Wildcard
import DocRepair.Proofs.Text.Pieces
import Mathlib.Tactic.FinCases

/-!
The expression of a wildcard.

A wildcard can be written as an expression: every code point that means something in expressions
gets a backslash, and then the escaped stars, two at a time and then one at a time, and the escaped
question marks give way to their patterns. Whatever stands in the wildcard, this replaces stars and
question marks only, and the expression is found in the texts that the wildcard stands for.
-/

namespace DocRepair

namespace Wildcard

open Cursor Matcher Pattern

/-- The code points that get a backslash in an expression. -/
def isEscaped (c : CodePoint) : Bool :=
  c.isOneOf "()[]\x7b\x7d?*+-|^$\\.&~# \t\n\r\x0b\x0c"

/-- A code point as it stands in an expression. -/
def escapeOne (c : CodePoint) : Text :=
  if isEscaped c then ['\\', c] else [c]

/-- A text as an expression that stands for itself. -/
def escape (t : Text) : Text :=
  t.flatMap escapeOne

def expression (wildcard : Text) (single : Bool) : Text :=
  let pairs := Text.replace "\\*\\*" ".*" (escape wildcard)
  let stars := Text.replace "\\*" ".*" pairs
  "^" ++ (if single then Text.replace "\\?" "." stars else stars) ++ "$"

/-! ### Replacing stars and question marks -/

/-- Goes through a wildcard by code points; two stars side by side are gathered into one. -/
def gather {α : Type} (pair : α) (one : CodePoint → α) : Text → List α
  | [] => []
  | [c] => [one c]
  | c :: d :: rest =>
    if c = '*' ∧ d = '*' then pair :: gather pair one rest else one c :: gather pair one (d :: rest)

theorem map_gather {α β : Type} (f : α → β) (pair : α) (one : CodePoint → α) (wildcard : Text) :
    (gather pair one wildcard).map f = gather (f pair) (f ∘ one) wildcard := by
  fun_induction gather pair one wildcard with
  | case1 => rfl
  | case2 c => rfl
  | case3 c d rest stars ih => rw [List.map_cons, ih, gather, if_pos stars]
  | case4 c d rest other ih => rw [List.map_cons, ih, gather, if_neg other, Function.comp]

theorem mem_gather {α : Type} {a pair : α} {one : CodePoint → α} {wildcard : Text}
    (member : a ∈ gather pair one wildcard) : a = pair ∨ ∃ c, a = one c := by
  fun_induction gather pair one wildcard with
  | case1 => cases member
  | case2 c => exact .inr ⟨c, by simpa using member⟩
  | case3 c d rest _ ih => exact (List.mem_cons.mp member).elim .inl ih
  | case4 c d rest _ ih =>
    exact (List.mem_cons.mp member).elim (fun same => .inr ⟨c, same⟩) ih

/-- A wildcard with one star for every two side by side. -/
def squeeze (wildcard : Text) : Text :=
  gather (('*' : Char) : CodePoint) id wildcard

/-- A part of an expression: a backslash with a code point, or no backslash at all, and the first
code point is not the given one. -/
structure IsPart (x : CodePoint) (part : Text) : Prop where
  whole : (∃ c, part = [('\\' : CodePoint), c]) ∨ ('\\' : CodePoint) ∉ part
  head : ∃ c ∈ part.head?, c ≠ x

section

variable {x : CodePoint} {part t more : Text}

/-- A part is taken over as a whole where the marks that are replaced do not begin. -/
theorem IsPart.replace (isPart : IsPart x part) (new : Text)
    (absent : ¬('\\' : CodePoint) :: x :: more <+: part ++ t) (next : t.head? ≠ some x) :
    Text.replace (('\\' : CodePoint) :: x :: more) new (part ++ t) =
      part ++ Text.replace (('\\' : CodePoint) :: x :: more) new t := by
  rcases isPart.whole with ⟨c, rfl⟩ | plain
  · have later : ¬('\\' : CodePoint) :: x :: more <+: c :: t := by
      intro mark
      obtain ⟨rest, rfl⟩ := (List.cons_prefix_cons.mp mark).2
      exact next rfl
    exact (Text.replace_cons new absent).trans (congrArg _ (Text.replace_cons new later))
  · clear absent isPart
    induction part with
    | nil => rfl
    | cons d rest ih =>
      have here : ¬('\\' : CodePoint) :: x :: more <+: d :: (rest ++ t) := by
        intro mark
        exact plain (by simp [(List.cons_prefix_cons.mp mark).1])
      rw [List.cons_append, Text.replace_cons new here,
        ih fun member => plain (by simp [member]), List.cons_append]

/-- A mark that a part begins with is the part, if the part is not longer. -/
theorem IsPart.of_isPrefix (isPart : IsPart x part)
    (mark : ('\\' : CodePoint) :: x :: more <+: part ++ t) :
    part = [('\\' : CodePoint), x] ∧ more <+: t := by
  obtain ⟨c, head, _⟩ := isPart.head
  rcases isPart.whole with ⟨d, rfl⟩ | plain
  · simpa [eq_comm] using mark
  · cases part with
    | nil => cases head
    | cons d rest => exact absurd (by simp [(List.cons_prefix_cons.mp mark).1]) plain

theorem head_flatten {parts : List Text} (isPart : ∀ part ∈ parts, IsPart x part) :
    parts.flatten.head? ≠ some x := by
  cases parts with
  | nil => simp
  | cons part rest =>
    obtain ⟨c, head, other⟩ := (isPart part (by simp)).head
    simpa [Option.mem_def.mp head] using other

/-- In an expression made of parts, the parts that are the mark to be replaced are replaced. -/
theorem replace_parts (new : Text) {parts : List Text}
    (isPart : ∀ part ∈ parts, IsPart x part) :
    Text.replace [('\\' : CodePoint), x] new parts.flatten =
      (parts.map fun part => if part = [('\\' : CodePoint), x] then new else part).flatten := by
  induction parts with
  | nil => rfl
  | cons part rest ih =>
    have ofRest : ∀ part ∈ rest, IsPart x part := fun part member => isPart part (by simp [member])
    rw [List.flatten_cons, List.map_cons, List.flatten_cons, ← ih ofRest]
    by_cases same : part = [('\\' : CodePoint), x]
    · rw [if_pos same, same, Text.replace_append_self new (by simp)]
    · have first := isPart part (by simp)
      rw [if_neg same, first.replace new (fun mark => same (first.of_isPrefix mark).1)
        (head_flatten ofRest)]

end

/-! ### The expression, part by part -/

theorem isPart_escapeOne {x : CodePoint} (escaped : isEscaped x = true) (c : CodePoint)
    (other : x ≠ ('\\' : CodePoint)) : IsPart x (escapeOne c) := by
  unfold escapeOne
  split
  · exact ⟨.inl ⟨c, rfl⟩, _, rfl, other.symm⟩
  · rename_i plain
    have free : c ≠ ('\\' : CodePoint) := by
      rintro rfl
      exact plain (by decide)
    refine ⟨.inr (by simpa [eq_comm] using free), c, rfl, ?_⟩
    rintro rfl
    exact plain escaped

theorem escapeOne_eq_iff {c x : CodePoint} (escaped : isEscaped x = true) :
    escapeOne c = [('\\' : CodePoint), x] ↔ c = x := by
  unfold escapeOne
  split
  · simp
  · rename_i plain
    simp only [List.cons.injEq, reduceCtorEq, and_false, false_iff]
    rintro rfl
    exact plain escaped

def spelled (single : Bool) (c : CodePoint) : Text :=
  if c = '*' then ".*" else if single && c = '?' then "." else escapeOne c

theorem escape_eq_flatten (t : Text) : escape t = (t.map escapeOne).flatten :=
  List.flatMap_def

/-- Two escaped stars side by side are replaced before single ones are. -/
theorem replace_pairs (wildcard : Text) :
    Text.replace "\\*\\*" ".*" (escape wildcard) =
      (gather (".*" : Text) escapeOne wildcard).flatten := by
  have marks : ("\\*\\*" : Text) = [('\\' : CodePoint), '*', '\\', '*'] := by decide
  have escaped : isEscaped '*' = true := by decide
  have isPart := fun c => isPart_escapeOne escaped c (by decide)
  rw [marks]
  fun_induction gather (".*" : Text) escapeOne wildcard with
  | case1 => rfl
  | case2 c =>
    have alone : escape [c] = escapeOne c ++ [] := rfl
    rw [alone, (isPart c).replace]
    · rfl
    · intro mark
      simpa using ((isPart c).of_isPrefix mark).2
    · simp
  | case3 c d rest stars ih =>
    obtain ⟨rfl, rfl⟩ := stars
    have pair : escape ('*' :: '*' :: rest) = [('\\' : CodePoint), '*', '\\', '*'] ++ escape rest :=
      rfl
    rw [pair, Text.replace_append_self _ (by simp), ih, List.flatten_cons]
  | case4 c d rest other ih =>
    have first : escape (c :: d :: rest) = escapeOne c ++ escape (d :: rest) := rfl
    rw [first, (isPart c).replace, ih, List.flatten_cons]
    · intro mark
      obtain ⟨one, more⟩ := (isPart c).of_isPrefix mark
      have two := ((isPart d).of_isPrefix more).1
      exact other ⟨(escapeOne_eq_iff escaped).mp one, (escapeOne_eq_iff escaped).mp two⟩
    · rw [escape_eq_flatten]
      refine head_flatten fun part member => ?_
      obtain ⟨c, _, rfl⟩ := List.mem_map.mp member
      exact isPart c

theorem isPart_of_free {x c : CodePoint} {rest : Text} (other : c ≠ x)
    (free : ('\\' : CodePoint) ∉ c :: rest) : IsPart x (c :: rest) :=
  ⟨.inr free, c, rfl, other⟩

theorem isPart_spelled {x : CodePoint} (escaped : isEscaped x = true)
    (backslash : x ≠ ('\\' : CodePoint)) (dot : x ≠ ('.' : CodePoint)) (single : Bool)
    (c : CodePoint) : IsPart x (spelled single c) := by
  unfold spelled
  split
  · exact isPart_of_free dot.symm (by decide)
  · split
    · exact isPart_of_free dot.symm (by decide)
    · exact isPart_escapeOne escaped c backslash

theorem replace_gather {x : CodePoint} {one other : CodePoint → Text} {new : Text}
    (wildcard : Text) (pair : IsPart x ".*") (isPart : ∀ c, IsPart x (one c))
    (replaced : ∀ c, other c = if one c = [('\\' : CodePoint), x] then new else one c) :
    Text.replace [('\\' : CodePoint), x] new (gather (".*" : Text) one wildcard).flatten =
      (gather (".*" : Text) other wildcard).flatten := by
  have whole : ∀ part ∈ gather (".*" : Text) one wildcard, IsPart x part := by
    intro part member
    rcases mem_gather member with rfl | ⟨c, rfl⟩
    · exact pair
    · exact isPart c
  have kept : ¬(".*" : Text) = [('\\' : CodePoint), x] := by
    intro same
    have dot : (('.' : Char) : CodePoint) = '\\' := (List.cons.inj same).1
    exact absurd dot (by decide)
  rw [replace_parts new whole, map_gather, if_neg kept, funext replaced]
  rfl

/-- The expression of a wildcard, code point by code point. -/
theorem expression_eq (wildcard : Text) (single : Bool) :
    expression wildcard single =
      "^" ++ ((squeeze wildcard).map (spelled single)).flatten ++ "$" := by
  have stars : ("\\*" : Text) = [('\\' : CodePoint), '*'] := by decide
  have queries : ("\\?" : Text) = [('\\' : CodePoint), '?'] := by decide
  have joined : (squeeze wildcard).map (spelled single) =
      gather (".*" : Text) (spelled single) wildcard :=
    map_gather _ _ _ _
  have replaced : Text.replace "\\*" ".*" (Text.replace "\\*\\*" ".*" (escape wildcard)) =
      (gather (".*" : Text) (spelled false) wildcard).flatten := by
    rw [replace_pairs, stars]
    refine replace_gather _ (isPart_of_free (by decide) (by decide))
      (fun c => isPart_escapeOne (by decide) c (by decide)) fun c => ?_
    simp only [escapeOne_eq_iff (show isEscaped '*' = true by decide), spelled, Bool.false_and,
      Bool.false_eq_true, if_false]
  rw [joined, expression, replaced]
  cases single with
  | false => rfl
  | true =>
    rw [if_pos rfl, queries]
    congr 2
    refine replace_gather _ (isPart_of_free (by decide) (by decide))
      (isPart_spelled (by decide) (by decide) (by decide) false) fun c => ?_
    by_cases star : c = '*'
    · subst star
      decide +revert
    · simp only [spelled, if_neg star, Bool.false_and, Bool.true_and, Bool.false_eq_true, if_false,
        decide_eq_true_eq, escapeOne_eq_iff (show isEscaped '?' = true by decide)]

/-! ### The pattern of the expression -/

theorem readEscape_of_isEscaped {c : CodePoint} (escaped : isEscaped c = true) :
    readEscape {} c = pure (.other, Pattern.one c) := by
  have member := Text.mem_of_isOneOf escaped
  change c ∈ (_ :: _ : List CodePoint) at member
  fin_cases member <;> rfl

theorem isEscaped_of_isSpecial {c : CodePoint} (special : isSpecial c = true) :
    isEscaped c = true := by
  have escaped : ∀ c ∈ (".\\[\x7b()*+?^$|" : Text), isEscaped c = true := by decide
  exact escaped c (Text.mem_of_isOneOf special)

/-- With a backslash where it needs one, a code point stands for itself. -/
theorem spellsPiece_escapeOne (c : CodePoint) :
    SpellsPiece (escapeOne c) .other (Pattern.one c) := by
  by_cases escaped : isEscaped c = true
  · rw [escapeOne, if_pos escaped]
    exact .escaped (readEscape_of_isEscaped escaped)
  · rw [escapeOne, if_neg escaped]
    exact .plain (Bool.eq_false_iff.mpr fun special => escaped (isEscaped_of_isSpecial special))

def marks (single : Bool) (c : CodePoint) : List Text :=
  if c = '*' then [['.'], ['*']] else [spelled single c]

theorem flatten_marks (single : Bool) (c : CodePoint) :
    (marks single c).flatten = spelled single c := by
  rw [marks]
  split
  · rename_i star
    rw [star]
    rfl
  · exact List.append_nil _

theorem spells_marks (single : Bool) {texts : List Text} {patterns : List Pattern}
    (later : Spells texts patterns) (wildcard : Text) :
    Spells (wildcard.flatMap (marks single) ++ texts)
      (wildcard.map (piece single) ++ patterns) := by
  induction wildcard with
  | nil => exact later
  | cons c rest ih =>
    rcases piece_cases single c with
      ⟨rfl, pattern⟩ | ⟨rfl, special, pattern⟩ | ⟨plain, ordinary, pattern⟩
    · rw [List.map_cons, pattern]
      exact .starred .any ih
    · have text : marks single '?' = ([['.']] : List Text) := by
        rw [special]
        rfl
      rw [List.map_cons, pattern, List.flatMap_cons, text]
      exact .piece .any ih
    · have text : marks single c = [escapeOne c] := by
        simp [marks, spelled, plain, ordinary]
      rw [List.map_cons, pattern, List.flatMap_cons, text]
      exact .piece (spellsPiece_escapeOne c) ih

def sequence (wildcard : Text) (single : Bool) : Pattern :=
  all (.anchor .textStart :: (wildcard.map (piece single) ++ [.anchor .lastLineEnd]))

/-- The expression of a wildcard is read as the sequence of its pieces. -/
theorem ofExpression_expression (wildcard : Text) (single : Bool) :
    ofExpression (expression wildcard single) = .ok (sequence (squeeze wildcard) single) := by
  let last : List Text := [['$']]
  let texts : List Text := ['^'] :: ((squeeze wildcard).flatMap (marks single) ++ last)
  have marked : expression wildcard single = texts.flatten := by
    have pieces : ((squeeze wildcard).map (spelled single)).flatten =
        ((squeeze wildcard).flatMap (marks single)).flatten := by
      rw [List.flatMap_def, List.flatten_flatten, List.map_map]
      simp only [Function.comp_def, flatten_marks]
    rw [expression_eq, pieces, List.append_assoc]
    show _ = Text.ofString "^" ++ ((squeeze wildcard).flatMap (marks single) ++ last).flatten
    rw [List.flatten_append]
    rfl
  have spells : Spells texts
      (.anchor .textStart :: ((squeeze wildcard).map (piece single) ++ [.anchor .lastLineEnd])) :=
    .piece .start (spells_marks single (.piece .stop .nil) _)
  rw [marked, spells.ofExpression, sequence]

theorem run_sequence (wildcard : Text) (single : Bool) (c : Cursor)
    (k : Cursor → Option Cursor) :
    (sequence wildcard single).run c k = (compile wildcard single).run c k := by
  rw [sequence, run_all_cons, compile, run_seq, run_seq]
  simp only [run_all_append, run_seq]
  rfl

/-! ### Stars side by side -/

section

variable {single : Bool} {w w' t : Text}

theorem standsFor_star_iff : StandsFor single ('*' :: w) t ↔
    ∃ run rest, t = run ++ rest ∧ (∀ x ∈ run, x ≠ '\n') ∧ StandsFor single w rest := by
  constructor
  · intro stands
    generalize star : (('*' : Char) : CodePoint) :: w = wildcard at stands
    cases stands with
    | nil => cases star
    | literal plain _ _ => exact absurd (List.cons.inj star).1.symm plain
    | one _ _ _ => exact absurd (List.cons.inj star).1 (by decide)
    | star inside rest =>
      obtain rfl := (List.cons.inj star).2
      exact ⟨_, _, rfl, inside, rest⟩
  · rintro ⟨run, rest, rfl, inside, stands⟩
    exact .star inside stands

theorem standsFor_cons_mono (same : ∀ t, StandsFor single w t → StandsFor single w' t)
    {c : CodePoint} (stands : StandsFor single (c :: w) t) : StandsFor single (c :: w') t := by
  cases stands with
  | literal plain ordinary rest => exact .literal plain ordinary (same _ rest)
  | one special inside rest => exact .one special inside (same _ rest)
  | star inside rest => exact .star inside (same _ rest)

theorem standsFor_pair_iff :
    StandsFor single ('*' :: '*' :: w) t ↔ StandsFor single ('*' :: w) t := by
  constructor
  · intro stands
    obtain ⟨run, _, rfl, inside, later⟩ := standsFor_star_iff.mp stands
    obtain ⟨more, rest, rfl, inside', stands⟩ := standsFor_star_iff.mp later
    rw [← List.append_assoc]
    refine .star (fun x member => ?_) stands
    exact (List.mem_append.mp member).elim (inside x) (inside' x)
  · exact fun stands => standsFor_star_iff.mpr ⟨[], _, rfl, by simp, stands⟩

theorem standsFor_squeeze_iff (wildcard : Text) {t : Text} :
    StandsFor single (squeeze wildcard) t ↔ StandsFor single wildcard t := by
  unfold squeeze
  fun_induction gather (('*' : Char) : CodePoint) id wildcard generalizing t with
  | case1 => rfl
  | case2 c => rfl
  | case3 c d rest stars ih =>
    obtain ⟨rfl, rfl⟩ := stars
    rw [standsFor_pair_iff]
    exact ⟨standsFor_cons_mono fun _ => ih.mp, standsFor_cons_mono fun _ => ih.mpr⟩
  | case4 c d rest _ ih =>
    exact ⟨standsFor_cons_mono fun _ => ih.mp, standsFor_cons_mono fun _ => ih.mpr⟩

theorem standsForLine_squeeze_iff (wildcard subject : Text) :
    StandsForLine single (squeeze wildcard) subject ↔ StandsForLine single wildcard subject := by
  simp only [StandsForLine, standsFor_squeeze_iff]

end

/-- A wildcard matches, at the start and anywhere, the texts that it stands for, and so does the
pattern that its expression is read as. -/
theorem wildcard_meaning (wildcard subject : Text) (single : Bool) :
    (holds wildcard single subject = true ↔ StandsForLine single wildcard subject) ∧
      ((compile wildcard single).occursIn subject = true ↔
        StandsForLine single wildcard subject) ∧
      ∃ p, ofExpression (expression wildcard single) = .ok p ∧
        ((p.match? subject).isSome = true ↔ StandsForLine single wildcard subject) ∧
        (p.occursIn subject = true ↔ StandsForLine single wildcard subject) := by
  obtain ⟨matched, found⟩ := found_iff (run_compile_iff single wildcard) subject
  refine ⟨matched, found, _, ofExpression_expression wildcard single, found_iff ?_ subject⟩
  intro front rest
  rw [run_sequence, run_compile_iff, standsForLine_squeeze_iff]

example : expression "a***.b?" true = "^a.*.*\\.b.$" := by decide +kernel

end Wildcard

end DocRepair
