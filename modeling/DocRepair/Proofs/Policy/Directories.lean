import DocRepair.Policy.PathFilter
import DocRepair.Proofs.Pattern.SpelledExpression
import DocRepair.Proofs.Policy.Precedence
import DocRepair.Proofs.Text.Trimmed
import Mathlib.Data.List.Infix

/-!
Which paths a directory pattern covers.

A pattern that ends with a slash stands for a directory, and covers the paths at it and below it.
Only a pattern that begins with a slash as well is an expression, which is searched for: it covers
the paths that hold what is between the slashes, wherever that stands in them.
-/

namespace DocRepair

/-! ### Patterns between two slashes -/

namespace Delimited

variable {pattern body : Text}

/-- A pattern is a text between two slashes. -/
def Slashed (pattern body : Text) : Prop :=
  body ≠ [] ∧ pattern = "/" ++ body ++ "/"

theorem Slashed.ofText? (slashed : Slashed pattern body) :
    ofText? pattern = some ⟨body, []⟩ := by
  obtain ⟨nonempty, rfl⟩ := slashed
  exact ofText?_eq_some_iff.mpr ⟨nonempty, by simp, .inl (List.append_nil _).symm⟩

theorem Spells.slashed {d : Delimited} (spells : d.Spells pattern)
    (slash : pattern.getLast? = some ('/' : CodePoint)) : Slashed pattern d.body := by
  rcases spells.text with text | text
  · have none : d.flags = [] := by
      by_contra some
      rw [text, List.getLast?_append_of_ne_nil _ some] at slash
      exact absurd (spells.flags _ (List.mem_of_getLast? slash)) (by decide)
    exact ⟨spells.body, by rw [text, none, List.append_nil]⟩
  · rw [text, List.getLast?_append_of_ne_nil _ (by decide)] at slash
    exact absurd slash (by decide)

theorem ofText?_eq_none (slash : pattern.getLast? = some ('/' : CodePoint))
    (unslashed : ∀ body, ¬Slashed pattern body) : Delimited.ofText? pattern = none :=
  Option.eq_none_iff_forall_ne_some.mpr fun d read =>
    unslashed d.body ((ofText?_eq_some_iff.mp read).slashed slash)

end Delimited

/-! ### Expressions without special code points -/

namespace Pattern

/-- Without special code points an expression is a text that stands for itself. -/
theorem ofExpression_plain (named : Text → Option CodePoint) {t : Text}
    (plain : ∀ c ∈ t, isSpecial c = false) : ofExpression t {} named = .ok (exactly t) := by
  have spells : Spells (t.map fun c => [c]) (t.map one) := by
    induction t with
    | nil => exact .nil
    | cons c rest ih =>
      exact .piece (.plain (plain c (by simp))) (ih fun d member => plain d (by simp [member]))
  have joined : (t.map fun c => [c]).flatten = t := by
    rw [← List.flatMap_def, List.flatMap_singleton']
  rw [← joined, spells.ofExpression, joined, exactly]

end Pattern

/-! ### Paths -/

namespace PathFilter

open Delimited

variable {pattern path body : Text}

def AtOrBelow (directory path : Text) : Prop :=
  normalize path = normalize directory ∨ (normalize directory ++ "/" : Text) <+: normalize path

instance (directory path : Text) : Decidable (AtOrBelow directory path) :=
  inferInstanceAs (Decidable (_ ∨ _))

variable {re : Expressions}

theorem covers_directory (slash : pattern.getLast? = some ('/' : CodePoint))
    (unslashed : ∀ body, ¬Slashed pattern body) :
    covers re pattern path = .ok (decide (AtOrBelow pattern path)) := by
  have read := ofText?_eq_none slash unslashed
  have last : (pattern.getLast? == some (('/' : Char) : CodePoint)) = true := by simpa using slash
  have directory : coversAsText pattern path = if normalize path == normalize pattern then true
      else (normalize path ++ "/" : Text).startsWith (normalize pattern ++ "/") :=
    if_congr Iff.rfl rfl (if_pos last)
  rw [covers, read, Except.ok.injEq, directory, Bool.eq_iff_iff, decide_eq_true_eq, AtOrBelow]
  split
  · rename_i same
    exact iff_of_true rfl (.inl (beq_iff_eq.mp same))
  · have slash : Text.ofString "/" = [CodePoint.ofChar '/'] := rfl
    rw [Text.startsWith, List.isPrefixOf_iff_prefix, slash, List.prefix_concat_iff,
      List.append_left_inj]
    exact or_congr_left eq_comm

/-- A pattern between two slashes covers the paths in which its expression is found. -/
theorem covers_slashed_iff (slashed : Slashed pattern body) :
    covers re pattern path = .ok true ↔
      ∃ found, re.read body {} = .ok found ∧ found path = true := by
  have read : (⟨body, []⟩ : Delimited).read re = re.read body {} := rfl
  simp only [covers, slashed.ofText?, read]
  cases re.read body {} with
  | error fault => cases fault <;> simp
  | ok found => simp

/-- Without special code points between the slashes, these are the paths that hold the text. -/
theorem covers_plain (named : Text → Option CodePoint) (slashed : Slashed pattern body)
    (plain : ∀ c ∈ body, Pattern.isSpecial c = false) :
    covers (.standard named) pattern path = .ok (decide (body <:+: path)) := by
  have read : (Expressions.standard named).read body {} =
      .ok (Pattern.exactly body).occursIn := by
    simp only [Expressions.standard, Pattern.ofExpression_plain named plain]
  have found : (⟨body, []⟩ : Delimited).read (.standard named) =
      .ok (Pattern.exactly body).occursIn := read
  simp only [covers, slashed.ofText?, found, Except.ok.injEq]
  rw [Bool.eq_iff_iff, decide_eq_true_eq, Pattern.occursIn_exactly_iff]

theorem normalize_isPrefix (forward : (('\\' : Char) : CodePoint) ∉ path) :
    normalize path <+: path := by
  rw [normalize, Text.substitute_of_not_mem _ forward]
  exact Text.dropTrailing_isPrefix _ path

theorem normalize_slashed (slashed : Slashed pattern body)
    (forward : (('\\' : Char) : CodePoint) ∉ body) (last : body.getLast? ≠ some ('/' : CodePoint)) :
    normalize pattern = "/" ++ body := by
  obtain ⟨nonempty, rfl⟩ := slashed
  have slash : Text.ofString "/" = [CodePoint.ofChar '/'] := rfl
  have absent : (('\\' : Char) : CodePoint) ∉ (Text.ofString "/" ++ body ++ "/" : Text) := by
    have other : (('\\' : Char) : CodePoint) ∉ Text.ofString "/" := by decide
    simp only [List.mem_append, not_or]
    exact ⟨⟨other, forward⟩, other⟩
  rw [normalize, Text.substitute_of_not_mem _ absent, slash, Text.dropTrailing_concat _ (by decide)]
  refine Text.dropTrailing_eq_self fun c member => ?_
  rw [List.getLast?_append_of_ne_nil _ nonempty] at member
  have other : c ≠ '/' := by
    rintro rfl
    exact last member
  simpa using other

/-- Paths with slashes only that are at the directory or below it hold its name. -/
theorem infix_of_atOrBelow (slashed : Slashed pattern body)
    (plain : ∀ c ∈ body, Pattern.isSpecial c = false)
    (last : body.getLast? ≠ some ('/' : CodePoint))
    (forward : (('\\' : Char) : CodePoint) ∉ path) (within : AtOrBelow pattern path) :
    body <:+: path := by
  have body_forward : (('\\' : Char) : CodePoint) ∉ body := fun member =>
    absurd (plain _ member) (by decide)
  have directory : normalize pattern <+: path := by
    refine List.IsPrefix.trans ?_ (normalize_isPrefix forward)
    rcases within with same | below
    · rw [same]
    · exact (List.prefix_append _ _).trans below
  rw [normalize_slashed slashed body_forward last] at directory
  exact (List.suffix_append _ body).isInfix.trans directory.isInfix

/-- A pattern that ends with a slash covers the paths at the directory and below it, unless it is a
text between two slashes: then it covers the paths in which that expression is found, whatever
expressions mean. Read as a pattern, a text without special code points is found in the paths that
hold it, wherever it stands, and so in those at the directory and below it. -/
theorem directory_pattern {pattern : Text} (slash : pattern.getLast? = some ('/' : CodePoint))
    (path : Text) :
    ((∀ body, ¬Slashed pattern body) →
      ∀ re, covers re pattern path = .ok (decide (AtOrBelow pattern path))) ∧
      ∀ body, Slashed pattern body →
        (∀ re : Expressions, covers re pattern path = .ok true ↔
          ∃ found, re.read body {} = .ok found ∧ found path = true) ∧
        ((∀ c ∈ body, Pattern.isSpecial c = false) → ∀ named,
          covers (.standard named) pattern path = .ok (decide (body <:+: path)) ∧
          (body.getLast? ≠ some ('/' : CodePoint) → (('\\' : Char) : CodePoint) ∉ path →
            AtOrBelow pattern path → covers (.standard named) pattern path = .ok true)) := by
  constructor
  · intro unslashed re
    exact covers_directory slash unslashed
  · intro body slashed
    refine ⟨fun re => covers_slashed_iff slashed, fun plain named => ?_⟩
    have holds : covers (.standard named) pattern path = .ok (decide (body <:+: path)) :=
      covers_plain named slashed plain
    refine ⟨holds, fun last forward within => ?_⟩
    rw [holds, decide_eq_true (infix_of_atOrBelow slashed plain last forward within)]

/-- A directory, and a pattern between two slashes. -/
theorem directory_pattern_sample :
    covers .standard "src/" "src/Models/User.php" = .ok true ∧
      covers .standard "src/" "srcx/User.php" = .ok false ∧
      covers .standard "/src/" "/src/User.php" = .ok true := by
  have unslashed : ∀ body, ¬Slashed "src/" body := by
    rintro body ⟨-, same⟩
    have first : (("src/" : Text).head? : Option CodePoint) = some '/' := by
      rw [same]
      rfl
    exact absurd first (by decide)
  have slashed : Slashed "/src/" "src" := ⟨by decide, by decide⟩
  refine ⟨?_, ?_, ?_⟩
  · rw [(directory_pattern (by decide) _).1 unslashed]
    decide
  · rw [(directory_pattern (by decide) _).1 unslashed]
    decide
  · exact (((directory_pattern (by decide) _).2 _ slashed).2 (by decide) _).2 (by decide)
      (by decide) (by decide)

/-- A pattern between two slashes covers a path outside the directory, and another one does not
cover a path below it. -/
theorem directory_pattern_excludes :
    ¬(covers .standard "/src/" "/srv/src/A.php" = .ok true ↔
        AtOrBelow "/src/" "/srv/src/A.php") ∧
      ¬(covers .standard "/a+b/" "/a+b/C.php" = .ok true ↔
        AtOrBelow "/a+b/" "/a+b/C.php") := by
  have found : covers .standard "/src/" "/srv/src/A.php" = .ok true := by decide +kernel
  have outside : ¬AtOrBelow "/src/" "/srv/src/A.php" := by decide
  have missed : covers .standard "/a+b/" "/a+b/C.php" ≠ .ok true := by decide +kernel
  have below : AtOrBelow "/a+b/" "/a+b/C.php" := by decide
  exact ⟨fun same => outside (same.mp found), fun same => missed (same.mpr below)⟩

end PathFilter

end DocRepair
