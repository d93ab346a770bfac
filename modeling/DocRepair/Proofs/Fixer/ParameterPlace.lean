import DocRepair.Proofs.Batch.SameLine

/-!
Which declaration a diagnostic about a parameter goes to.

Of the declarations that begin within five lines the first one is taken, functions before methods.
A declaration on the line of the diagnostic is passed over if another one that comes earlier in this
order begins near the line.
-/

namespace DocRepair

open SourceTree Fixer

namespace SourceTree

/-- Whether a declaration begins more than five lines away from a line. -/
def IsFar (line : Int) (l : Located) : Prop :=
  l.line < line - 5 ∨ line + 5 < l.line

theorem isNear_eq_false_iff {line : Int} {l : Located} :
    isNear bodyTolerance l.line line = false ↔ IsFar line l := by
  rw [← Bool.not_eq_true, isNear_body, IsFar]
  omega

variable {tree : SourceTree} {line : Int} {before after : List Located} {d : Located}
  (order : tree.callables = before ++ d :: after) (own : d.line = line)

include order own

/-- A declaration on the line itself is found if all earlier ones are far away. -/
theorem locate?_own (far : ∀ l ∈ before, IsFar line l) :
    tree.locate? line bodyTolerance = some d := by
  refine List.find?_eq_some_iff_append.mpr ⟨?_, before, after, order, fun l earlier => ?_⟩
  · rw [isNear_body]
    omega
  · rw [isNear_eq_false_iff.mpr (far l earlier)]
    rfl

omit own in
/-- If an earlier one is near, the first of those is found. -/
theorem locate?_earlier (near : ¬∀ l ∈ before, IsFar line l) :
    ∃ front l back, before = front ++ l :: back ∧ (∀ other ∈ front, IsFar line other) ∧
      ¬IsFar line l ∧ tree.locate? line bodyTolerance = some l := by
  obtain ⟨near, earlier, close⟩ : ∃ l ∈ before, ¬IsFar line l := by simpa using near
  have some : (before.find? fun l => isNear bodyTolerance l.line line).isSome = true := by
    rw [List.find?_isSome]
    refine ⟨near, earlier, ?_⟩
    rw [← Bool.not_eq_false, isNear_eq_false_iff]
    exact close
  obtain ⟨l, found⟩ := Option.isSome_iff_exists.mp some
  obtain ⟨hit, front, back, parts, missed⟩ := List.find?_eq_some_iff_append.mp found
  refine ⟨front, l, back, parts, fun other member => ?_, ?_, ?_⟩
  · exact isNear_eq_false_iff.mp (by simpa using missed other member)
  · rw [← isNear_eq_false_iff, hit]
    simp
  · rw [locate?, order, List.find?_append, found]
    rfl

end SourceTree

/-- A diagnostic about a parameter on the line of a declaration, where no other one begins. Unless
the position of the parameter cannot be read, the tag goes above the first declaration that is near.
That is the one on the line itself exactly if all that come before it, functions before methods,
begin more than five lines away; otherwise it is another one, on another line. -/
theorem parameter_lands {analyze : Analyzer} {issue : Issue} {content name : Text}
    {tree : SourceTree} {before after : List Located} {d : Located}
    (read : analyze content = some tree)
    (named : Message.parameterName? issue.message = some name)
    (order : tree.callables = before ++ d :: after) (own : d.line = issue.line)
    (only : ∀ l ∈ before ++ after, l.line ≠ issue.line) :
    ∃ l, fixMissingParameter analyze issue content =
        ((Message.parameterPosition? issue.message).mapError (·.thrown)).map (fun position =>
          (parameterTag l position name).apply issue content) ∧
      (∀ position, (parameterTag l position name).line = l.line) ∧
      (l = d ↔ ∀ other ∈ before, IsFar issue.line other) ∧
      (l ≠ d → l.line ≠ d.line ∧ ∃ front back, before = front ++ l :: back ∧
        ¬IsFar issue.line l ∧ ∀ other ∈ front, IsFar issue.line other) := by
  by_cases far : ∀ other ∈ before, IsFar issue.line other
  · refine ⟨d, fixMissingParameter_eq read named (locate?_own order own far), fun _ => rfl,
      iff_of_true rfl far, fun other => absurd rfl other⟩
  · obtain ⟨front, l, back, parts, missed, near, found⟩ := locate?_earlier order far
    have apart : l.line ≠ d.line := by
      rw [own]
      exact only l (by simp [parts])
    have other : l ≠ d := fun same => apart (by rw [same])
    exact ⟨l, fixMissingParameter_eq read named found, fun _ => rfl, iff_of_false other far,
      fun _ => ⟨apart, front, back, parts, near, missed⟩⟩

/-- Two functions on lines of their own. -/
def neighbours : Text := "<?php\nfunction a($x) \x7b\x7d\nfunction b($y) \x7b\x7d\n"

def taking (name : Text) (line : Int) (parameter : Text) : Callable where
  name := name
  firstLine := line
  lastLine := line
  parameters := [⟨parameter, none, 0⟩]

def secondUntyped : Issue :=
  ⟨"a.php", 3, "Function b() has parameter $y with no type specified.", none, none⟩

/-- The tag for the parameter of the second function goes above the first one. -/
theorem parameter_lands_sample :
    Message.isMissingParameter secondUntyped.message = true ∧
      (∃ l d : Located, d.declaration.name = "b" ∧ d.line = secondUntyped.line ∧
        l.line ≠ d.line ∧ fixMissingParameter Php.declarations? secondUntyped neighbours =
          .ok ((parameterTag l none "y").apply secondUntyped neighbours)) ∧
      (fixMissingParameter Php.declarations? secondUntyped neighbours).map (·.content) =
        .ok ("<?php\n/**\n * @param mixed $y\n */\nfunction a($x) \x7b\x7d\n" ++
          "function b($y) \x7b\x7d\n") := by
  have named : Message.parameterName? secondUntyped.message = some "y" := by decide +kernel
  have tree : Php.declarations? neighbours =
      some ⟨none, [taking "a" 2 "x", taking "b" 3 "y"], []⟩ := by
    decide +kernel
  obtain ⟨l, done, _, lands, elsewhere⟩ := parameter_lands tree named
    (show _ = [_] ++ _ :: [] from rfl) rfl (by decide)
  have other := mt lands.mp (by simp [IsFar, Located.line, secondUntyped, taking])
  have placed : Message.parameterPosition? secondUntyped.message = .ok none := by decide +kernel
  rw [placed] at done
  exact ⟨by decide +kernel, ⟨l, _, rfl, rfl, (elsewhere other).1, done⟩, by decide +kernel⟩

end DocRepair
