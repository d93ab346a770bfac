import DocRepair.Pattern.Reader
import Mathlib.Data.List.Basic

/-!
Expressions that spell a pattern piece by piece.

A piece is a code point that stands for itself, with a backslash before it where it needs one, a
dot, or one of the two anchors; a star may follow a piece that is not an anchor. An expression made
of such pieces is read without a complaint, and gives the patterns of the pieces in sequence.
-/

namespace DocRepair.Pattern

open Read

/-! ### Single steps of reading -/

section Steps

variable {α β : Type} {s s' : ReadState} {m : Mark} {rest : List Mark}

theorem run_bind_of_ok {x : Read α} {f : α → Read β} {a : α} (step : x.run s = .ok (a, s')) :
    (x >>= f).run s = (f a).run s' := by
  rw [StateT.run_bind, step]
  rfl

/-- The marks that are left do not begin with a backslash without a code point. -/
def Proceeds (marks : List Mark) : Prop :=
  ∀ m ∈ marks.head?, m.dangles = false

theorem run_peek : peek.run s = .ok (s.marks.head?.map (·.text), s) :=
  rfl

theorem run_moveTo {marks : List Mark} (proceeds : Proceeds marks) :
    (moveTo marks).run s = .ok ((), { s with marks }) := by
  cases marks with
  | nil => rfl
  | cons m rest =>
    have whole := proceeds m rfl
    simp only [moveTo, whole]
    rfl

theorem run_here (next : s.marks = m :: rest) : here.run s = .ok (m.place, s) := by
  have state : (get : Read ReadState).run s = .ok (s, s) := rfl
  rw [here, run_bind_of_ok state, next]
  rfl

theorem run_take (next : s.marks = m :: rest) (proceeds : Proceeds rest) :
    take.run s = .ok (some m.text, { s with marks := rest }) := by
  have state : (get : Read ReadState).run s = .ok (s, s) := rfl
  rw [take, run_bind_of_ok state, next]
  exact run_bind_of_ok (run_moveTo proceeds)

theorem run_accept_other {c : CodePoint} (other : s.marks.head?.map (·.text) ≠ some [c]) :
    (accept c).run s = .ok (false, s) := by
  rw [accept, run_bind_of_ok run_peek, if_neg (by simpa using other)]
  rfl

end Steps

/-! ### Pieces -/

/-- A mark that is read as a piece of its own. -/
inductive SpellsPiece : Text → PieceKind → Pattern → Prop
  | escaped {c : CodePoint} (known : readEscape {} c = pure (.other, one c)) :
    SpellsPiece ['\\', c] .other (one c)
  | plain {c : CodePoint} (ordinary : isSpecial c = false) : SpellsPiece [c] .other (one c)
  | any : SpellsPiece ['.'] .other notNewline
  | start : SpellsPiece ['^'] .anchor (.anchor .textStart)
  | stop : SpellsPiece ['$'] .anchor (.anchor .lastLineEnd)

/-- Marks that spell patterns in sequence: each is a piece, or a piece with a star after it. -/
inductive Spells : List Text → List Pattern → Prop
  | nil : Spells [] []
  | piece {text : Text} {kind : PieceKind} {p : Pattern} {texts : List Text} {rest : List Pattern}
    (first : SpellsPiece text kind p) (later : Spells texts rest) :
    Spells (text :: texts) (p :: rest)
  | starred {text : Text} {p : Pattern} {texts : List Text} {rest : List Pattern}
    (first : SpellsPiece text .other p) (later : Spells texts rest) :
    Spells (text :: ['*'] :: texts) (many p :: rest)

/-- No piece is spelled by a sign that repeats a piece or ends a sequence, or by a backslash. -/
theorem SpellsPiece.ne_sign {text : Text} {kind : PieceKind} {p : Pattern}
    (spells : SpellsPiece text kind p) : ∀ sign ∈ ("|)*+?\\" : Text), text ≠ [sign] := by
  have signs : ∀ sign ∈ ("|)*+?\\" : Text), isSpecial sign = true ∧
      sign ≠ (('.' : Char) : CodePoint) ∧ sign ≠ (('^' : Char) : CodePoint) ∧
      sign ≠ (('$' : Char) : CodePoint) := by decide
  rintro sign member rfl
  obtain ⟨special, dot, caret, dollar⟩ := signs sign member
  cases spells with
  | plain ordinary => simp [special] at ordinary
  | any => exact dot rfl
  | start => exact caret rfl
  | stop => exact dollar rfl

section Sequences

variable {s : ReadState} {m : Mark} {rest : List Mark} {fuel : Nat} {first : Bool}
  {pieces : List Piece} {kind : PieceKind} {p : Pattern} {place : Nat}

/-- Reading a piece adds it to those before it. -/
theorem readSequence_piece (spells : SpellsPiece m.text kind p) (next : s.marks = m :: rest)
    (proceeds : Proceeds rest) :
    (readSequence (fuel + 1) {} first pieces).run s =
      (readSequence fuel {} first (pieces ++ [⟨kind, p, m.place⟩])).run
        { s with marks := rest } := by
  have peeked : peek.run s = .ok (some m.text, s) := by
    rw [run_peek, next]
    rfl
  have goesOn : ¬(m.text == Text.ofString "|" || m.text == Text.ofString ")") = true := by
    have bar := spells.ne_sign '|' (by decide)
    have bracket := spells.ne_sign ')' (by decide)
    simpa [Text.ofString] using ⟨bar, bracket⟩
  rw [readSequence, run_bind_of_ok peeked]
  simp only [if_neg goesOn, run_bind_of_ok (run_here next), run_bind_of_ok (run_take next proceeds)]
  generalize m.text = text at spells
  cases spells with
  | escaped known => simp only [known, pure_bind]
  | plain ordinary =>
    simp only [ordinary, Bool.not_false]
    rfl
  | any => rfl
  | start => rfl
  | stop => rfl

/-- No sign comes next that would change how a piece is repeated. -/
def Settled (marks : List Mark) : Prop :=
  marks.head?.map (·.text) ≠ some [(('?' : Char) : CodePoint)] ∧
    marks.head?.map (·.text) ≠ some [(('+' : Char) : CodePoint)]

theorem run_repeatLast {start : Nat} (settled : Settled s.marks) :
    (repeatLast {} (pieces ++ [⟨.other, p, place⟩]) start 0 none).run s =
      .ok (pieces ++ [⟨.repetition, many p, place⟩], s) := by
  obtain ⟨n, now⟩ : ∃ n, here.run s = .ok (n, s) := ⟨_, rfl⟩
  rw [repeatLast, run_bind_of_ok now]
  simp only [List.getLast?_concat, List.dropLast_concat, reduceCtorEq, if_false]
  rw [run_bind_of_ok (run_accept_other settled.1)]
  exact run_bind_of_ok (run_accept_other settled.2)

/-- Reading a star repeats the last piece. -/
theorem readSequence_star (star : m.text = ['*']) (next : s.marks = m :: rest)
    (proceeds : Proceeds rest) (settled : Settled rest) :
    (readSequence (fuel + 1) {} first (pieces ++ [⟨.other, p, place⟩])).run s =
      (readSequence fuel {} first (pieces ++ [⟨.repetition, many p, place⟩])).run
        { s with marks := rest } := by
  have peeked : peek.run s = .ok (some m.text, s) := by
    rw [run_peek, next]
    rfl
  have taken := run_take next proceeds
  rw [star] at peeked taken
  obtain ⟨n, now⟩ : ∃ n, here.run { s with marks := rest } = .ok (n, { s with marks := rest }) :=
    ⟨_, rfl⟩
  rw [readSequence, run_bind_of_ok peeked]
  refine (run_bind_of_ok (run_here next)).trans ?_
  refine (run_bind_of_ok taken).trans ?_
  refine (run_bind_of_ok now).trans ?_
  exact run_bind_of_ok (run_repeatLast settled)

/-- Where patterns are spelled, reading can go on, and nothing is repeated. -/
theorem Spells.proceeds {marks : List Mark} {texts : List Text} {patterns : List Pattern}
    (spells : Spells texts patterns) (same : marks.map (·.text) = texts) :
    Proceeds marks ∧ Settled marks := by
  cases marks with
  | nil => exact ⟨by simp [Proceeds], by simp [Settled]⟩
  | cons m rest =>
    obtain ⟨kind, p, first⟩ : ∃ kind p, SpellsPiece m.text kind p := by
      cases spells with
      | nil => simp at same
      | piece first _ => exact ⟨_, _, (List.cons.inj same).1 ▸ first⟩
      | starred first _ => exact ⟨_, _, (List.cons.inj same).1 ▸ first⟩
    have backslash := first.ne_sign '\\' (by decide)
    have query := first.ne_sign '?' (by decide)
    have plus := first.ne_sign '+' (by decide)
    exact ⟨by simpa [Proceeds, Mark.dangles, Text.ofString] using backslash,
      by simpa [Settled] using ⟨query, plus⟩⟩

/-- Patterns that are spelled one after the other are read one after the other. -/
theorem Spells.readSequence {texts : List Text} {patterns : List Pattern}
    (spells : Spells texts patterns) (same : s.marks.map (·.text) = texts)
    (enough : s.marks.length < fuel) :
    (readSequence fuel {} first pieces).run s =
      .ok (all (pieces.map (·.pattern) ++ patterns), { s with marks := [] }) := by
  induction spells generalizing s fuel pieces with
  | nil =>
    have ended : s.marks = [] := List.map_eq_nil_iff.mp same
    obtain ⟨less, rfl⟩ := Nat.exists_eq_succ_of_ne_zero (Nat.ne_zero_of_lt enough)
    have peeked : peek.run s = .ok (none, s) := by
      rw [run_peek, ended]
      rfl
    have state : { s with marks := [] } = s := by rw [← ended]
    rw [Pattern.readSequence, run_bind_of_ok peeked, List.append_nil, state]
    rfl
  | @piece text kind p texts rest first later ih =>
    obtain ⟨m, more, next, rfl, following⟩ := List.map_eq_cons_iff.mp same
    obtain ⟨less, rfl⟩ := Nat.exists_eq_succ_of_ne_zero (Nat.ne_zero_of_lt enough)
    rw [next, List.length_cons] at enough
    rw [readSequence_piece first next (later.proceeds following).1,
      ih (s := { s with marks := more }) following (Nat.lt_of_succ_lt_succ enough)]
    simp
  | @starred text p texts rest first later ih =>
    obtain ⟨m, others, next, rfl, remaining⟩ := List.map_eq_cons_iff.mp same
    obtain ⟨sign, more, rfl, star, following⟩ := List.map_eq_cons_iff.mp remaining
    rw [next, List.length_cons, List.length_cons] at enough
    obtain ⟨less, rfl⟩ : ∃ less, fuel = less + 1 + 1 := ⟨fuel - 2, by omega⟩
    have other : (('*' : Char) : CodePoint) ≠ (('\\' : Char) : CodePoint) := by decide
    have sound : Proceeds (sign :: more) := by
      simp [Proceeds, Mark.dangles, star, Text.ofString, other]
    obtain ⟨proceeds, settled⟩ := later.proceeds following
    rw [readSequence_piece first next sound,
      readSequence_star (s := { s with marks := sign :: more }) star rfl proceeds settled,
      ih (s := { s with marks := more }) following (show more.length < less by omega)]
    simp

end Sequences

/-! ### Whole expressions -/

theorem marksFrom_cons {c : CodePoint} (other : c ≠ '\\') (place : Nat) (t : Text) :
    marksFrom place (c :: t) = ⟨place, [c]⟩ :: marksFrom (place + 1) t := by
  cases t with
  | nil => rfl
  | cons d rest => rw [marksFrom, if_neg other]

theorem marksFrom_escape (c : CodePoint) (place : Nat) (t : Text) :
    marksFrom place ('\\' :: c :: t) = ⟨place, ['\\', c]⟩ :: marksFrom (place + 2) t := by
  rw [marksFrom, if_pos rfl]

theorem SpellsPiece.marksFrom {text : Text} {kind : PieceKind} {p : Pattern}
    (spells : SpellsPiece text kind p) (place : Nat) (t : Text) :
    ∃ next, marksFrom place (text ++ t) = ⟨place, text⟩ :: Pattern.marksFrom next t := by
  have backslash := spells.ne_sign '\\' (by decide)
  cases spells with
  | escaped _ => exact ⟨_, marksFrom_escape _ place t⟩
  | plain _ => exact ⟨_, marksFrom_cons (by simpa using backslash) place t⟩
  | any => exact ⟨_, marksFrom_cons (by decide) place t⟩
  | start => exact ⟨_, marksFrom_cons (by decide) place t⟩
  | stop => exact ⟨_, marksFrom_cons (by decide) place t⟩

theorem Spells.marksFrom {texts : List Text} {patterns : List Pattern}
    (spells : Spells texts patterns) (place : Nat) :
    (marksFrom place texts.flatten).map (·.text) = texts := by
  induction spells generalizing place with
  | nil => rfl
  | piece first _ ih =>
    obtain ⟨next, cut⟩ := first.marksFrom place _
    rw [List.flatten_cons, cut, List.map_cons, ih]
  | starred first _ ih =>
    obtain ⟨next, cut⟩ := first.marksFrom place _
    rw [List.flatten_cons, cut, List.map_cons, List.flatten_cons, List.singleton_append,
      marksFrom_cons (by decide), List.map_cons, ih]

theorem length_marksFrom_le (place : Nat) (t : Text) : (marksFrom place t).length ≤ t.length := by
  fun_induction marksFrom place t with
  | case1 => exact Nat.le_refl 0
  | case2 => exact Nat.le_refl 1
  | case3 place d rest ih =>
    simp only [List.length_cons]
    omega
  | case4 place c d rest _ ih =>
    simp only [List.length_cons] at ih ⊢
    omega

section

variable {s : ReadState} {fuel : Nat} {texts : List Text} {patterns : List Pattern}

theorem Spells.readAlternatives (spells : Spells texts patterns)
    (same : s.marks.map (·.text) = texts) (enough : s.marks.length < fuel) (outermost : Bool) :
    (readAlternatives (fuel + 1) {} outermost).run s =
      .ok (all patterns, { s with marks := [] }) := by
  rw [Pattern.readAlternatives, run_bind_of_ok (spells.readSequence same enough)]
  refine (run_bind_of_ok (run_accept_other (by simp))).trans ?_
  rfl

theorem Spells.readWhole (spells : Spells texts patterns) (same : s.marks.map (·.text) = texts)
    (enough : s.marks.length < fuel) (plain : s.flags = {}) (unconditional : s.conditions = [])
    (accepted : s.objection = none) :
    (readWhole (fuel + 1) {}).run s = .ok (all patterns, { s with marks := [] }) := by
  have state : (get : Read ReadState).run s = .ok (s, s) := rfl
  have moved : (moveTo s.marks).run s = .ok ((), s) := run_moveTo (spells.proceeds same).1
  rw [Pattern.readWhole, run_bind_of_ok state, run_bind_of_ok moved,
    run_bind_of_ok (spells.readAlternatives same enough true)]
  refine (run_bind_of_ok rfl).trans ?_
  simp only [plain, unconditional, accepted, List.forIn_nil]
  rfl

end

theorem Spells.ofExpression {texts : List Text} {patterns : List Pattern}
    (spells : Spells texts patterns) (named : Text → Option CodePoint) :
    ofExpression texts.flatten {} named = .ok (all patterns) := by
  have count := length_marksFrom_le 0 texts.flatten
  let state : ReadState :=
    { marks := Pattern.marksFrom 0 texts.flatten, length := texts.flatten.length, named }
  have enough : state.marks.length < 4 * texts.flatten.length + 7 := by
    show (Pattern.marksFrom 0 texts.flatten).length < _
    omega
  have read := spells.readWhole (s := state) (spells.marksFrom 0) enough rfl rfl rfl
  exact congrArg (fun result => (·.1) <$> result) read

end DocRepair.Pattern
