import DocRepair.Php.Source
import DocRepair.Proofs.Fixer.PlannedEdit

/-!
Contents that differ only in their line endings.

A content without carriage returns has the same lines as the content with one before every line
feed. The fixers read contents by lines and put lines together in the endings that they find, so
they plan the same for both and their results differ in the line endings only.
-/

namespace DocRepair

open Docblock Text Fixer

/-- A content with a carriage return before every line feed. -/
def withReturns (content : Text) : Text := Text.substitute '\n' "\r\n" content

/-- A result whose content has a carriage return before every line feed. -/
def FixResult.withReturns (r : FixResult) : FixResult :=
  { r with content := DocRepair.withReturns r.content }

/-! ### Lines -/

theorem withReturns_append (s t : Text) :
    withReturns (s ++ t) = withReturns s ++ withReturns t :=
  List.flatMap_append

theorem withReturns_of_not_mem {t : Text} (free : ('\n' : CodePoint) ∉ t) : withReturns t = t :=
  substitute_of_not_mem _ free

theorem withReturns_feed : withReturns "\n" = "\r\n" := by
  simp [withReturns, substitute, feed_text]

/-- Lines put together with bare line feeds become lines put together with pairs. -/
theorem withReturns_join {lines : List Text} (free : ∀ line ∈ lines, ('\n' : CodePoint) ∉ line) :
    withReturns (LineEnding.lf.join lines) = LineEnding.crlf.join lines := by
  rw [LineEnding.join, LineEnding.join, LineEnding.text, LineEnding.text]
  induction lines with
  | nil => rfl
  | cons line rest ih =>
    have here := withReturns_of_not_mem (free line (by simp))
    cases rest with
    | nil => exact here
    | cons next others =>
      have later := ih fun other member => free other (by simp [member])
      have more : next :: others ≠ [] := by simp
      rw [join_cons _ _ more, join_cons _ _ more, withReturns_append, withReturns_append, here,
        withReturns_feed, later]

theorem replace_withReturns {t : Text} (without : ('\r' : CodePoint) ∉ t) :
    Text.replace "\r\n" "\n" (withReturns t) = t := by
  rw [pair_text, feed_text]
  induction t with
  | nil => rfl
  | cons c rest ih =>
    have later := ih fun member => without (by simp [member])
    have other : ('\r' : CodePoint) ≠ c := fun same => without (by simp [same])
    have front : withReturns (c :: rest) = withReturns [c] ++ withReturns rest :=
      withReturns_append [c] rest
    by_cases feed : c = '\n'
    · have pair : withReturns [c] = [('\r' : CodePoint), '\n'] := by
        simp [withReturns, substitute, feed, pair_text]
      rw [front, pair, replace_append_self _ (by simp), later, feed]
      rfl
    · have single : withReturns [c] = [c] :=
        withReturns_of_not_mem (by simpa using Ne.symm feed)
      rw [front, single, List.singleton_append, replace_cons _ (by simp [other]), later]

theorem replace_of_not_mem {t : Text} (without : ('\r' : CodePoint) ∉ t) :
    Text.replace "\r\n" "\n" t = t := by
  rw [pair_text]
  induction t with
  | nil => rfl
  | cons c rest ih =>
    have later := ih fun member => without (by simp [member])
    have other : ('\r' : CodePoint) ≠ c := fun same => without (by simp [same])
    rw [replace_cons _ (by simp [other]), later]

section

variable {content : Text} (without : ('\r' : CodePoint) ∉ content)

include without

theorem plainLines_withReturns : plainLines (withReturns content) = plainLines content := by
  rw [plainLines, plainLines, replace_withReturns without, replace_of_not_mem without]

theorem detect_of_not_mem : LineEnding.detect content = .lf := by
  have missing := holds_pair_append without []
  rw [List.append_nil] at missing
  rw [LineEnding.detect, missing]
  rfl

theorem fileLines_free : ∀ line ∈ fileLines content, ('\n' : CodePoint) ∉ line := by
  rw [fileLines, detect_of_not_mem without]
  exact fun line member => not_mem_of_mem_splitAt member

theorem withReturns_eq_join : withReturns content = LineEnding.crlf.join (fileLines content) := by
  rw [← withReturns_join (fileLines_free without), ← detect_of_not_mem without, join_fileLines]

variable (feeds : ('\n' : CodePoint) ∈ content)

include feeds

theorem detect_withReturns : LineEnding.detect (withReturns content) = .crlf := by
  have several : 2 ≤ (fileLines content).length := by
    obtain ⟨before, after, rfl⟩ := List.append_of_mem feeds
    have front := List.length_pos_iff.mpr (splitAt_ne_nil ('\n' : CodePoint) before)
    have back := List.length_pos_iff.mpr (splitAt_ne_nil ('\n' : CodePoint) after)
    rw [fileLines, detect_of_not_mem without, LineEnding.split, splitAt_append_cons,
      List.length_append]
    omega
  rw [withReturns_eq_join without]
  exact LineEnding.detect_join_crlf several

theorem fileLines_withReturns : fileLines (withReturns content) = fileLines content := by
  have paired := detect_withReturns without feeds
  rw [withReturns_eq_join without] at paired ⊢
  exact fileLines_join (fileLines_ne_nil content) (fileLines_free without) paired

/-- New lines are put together in the endings of the content. -/
theorem join_withReturns {lines : List Text} (free : ∀ line ∈ lines, ('\n' : CodePoint) ∉ line) :
    (LineEnding.detect (withReturns content)).join lines =
      withReturns ((LineEnding.detect content).join lines) := by
  rw [detect_withReturns without feeds, detect_of_not_mem without, withReturns_join free]

/-! ### Plans and their results -/

theorem apply_withReturns (a : Addition) (issue : Issue) :
    a.apply issue (withReturns content) = (a.apply issue content).withReturns := by
  have free := fileLines_free without
  have lines := fileLines_withReturns without feeds
  have edited : a.editedLines (withReturns content) = a.editedLines content := by
    rw [Addition.editedLines, Addition.editedLines, lines]
  rw [a.apply_eq free, a.apply_eq (by rwa [lines]), lines, Addition.editedContent, edited,
    join_withReturns without feeds (a.edited_free free)]
  split
  · rfl
  · split <;> rfl

/-- Carried out, a plan gives the same result but for the line endings. -/
theorem carryOut_withReturns {analyze : Analyzer} {issue : Issue} {p : Plan}
    (placed : p.Placed analyze issue content) :
    p.carryOut issue (withReturns content) = (p.carryOut issue content).withReturns := by
  have free := fileLines_free without
  have lines := fileLines_withReturns without feeds
  cases p with
  | tag a => exact apply_withReturns without feeds a issue
  | complete line tagName variableName block stop =>
    obtain ⟨index, found⟩ := exists_locateAt?_of_locate? placed.2
    obtain ⟨fits, completed⟩ := completingEdit_fits stop found free
    rw [Plan.carryOut, Plan.carryOut, lines, completed,
      join_withReturns without feeds (fits.apply_free free)]
    rfl
  | inline line variableName =>
    rw [Plan.carryOut, Plan.carryOut, lines]
    split
    · rfl
    · rename_i outside
      split
      · rfl
      · simp only [Bool.or_eq_true, decide_eq_true_eq] at outside
        have inside : (line - 1).toNat < (fileLines content).length := by omega
        have fits := inlineEdit_fits inside free placed.2
        rw [insertInline_eq, join_withReturns without feeds (fits.apply_free free)]
        rfl

section

variable {analyze : Analyzer} (sameTree : analyze (withReturns content) = analyze content)
  (issue : Issue)

include sameTree

omit without feeds in
theorem tagPlan_withReturns {target : Issue → Text → SourceTree → Except Obstacle Addition}
    (same : ∀ tree, target issue (withReturns content) tree = target issue content tree) :
    tagPlan analyze target issue (withReturns content) = tagPlan analyze target issue content := by
  rw [tagPlan, tagPlan, sameTree]
  cases analyze content with
  | none => rfl
  | some tree => simp only [same]

theorem valueTypePlan_withReturns :
    valueTypePlan analyze issue (withReturns content) = valueTypePlan analyze issue content := by
  rw [valueTypePlan, valueTypePlan, sameTree]
  simp only [valueTypePlanAt, fileLines_withReturns without feeds]

/-- Every fixer plans the same in both line endings. -/
theorem planner_withReturns {planner : Issue → Text → Except Obstacle Plan}
    (known : planner ∈ plans analyze) :
    planner issue (withReturns content) = planner issue content := by
  have mixin : ∀ tree, mixinAddition issue (withReturns content) tree =
      mixinAddition issue content tree := by
    intro tree
    simp only [mixinAddition, plainLines_withReturns without]
  have tagged := @tagPlan_withReturns content analyze sameTree issue
  revert planner
  simp only [plans, List.forall_mem_cons, List.not_mem_nil, false_imp_iff, implies_true, and_true]
  exact ⟨tagged fun _ => rfl, tagged fun _ => rfl, tagged fun _ => rfl, tagged fun _ => rfl, rfl,
    tagged fun _ => rfl, tagged fun _ => rfl, tagged fun _ => rfl, tagged mixin,
    tagged fun _ => rfl, tagged fun _ => rfl, tagged fun _ => rfl, tagged fun _ => rfl,
    valueTypePlan_withReturns without feeds sameTree issue⟩

end

end

/-- In a file with carriage returns a fixer does what it does in the same file without them: it
ends alike, says the same, and leaves the same lines. -/
theorem returns_same_fix {analyze : Analyzer} {fixer : Fixer} (builtin : fixer ∈ builtins analyze)
    (issue : Issue) {content : Text} (feeds : ('\n' : CodePoint) ∈ content)
    (without : ('\r' : CodePoint) ∉ content)
    (sameTree : analyze (withReturns content) = analyze content) :
    fixer.fix issue (withReturns content) =
      (fixer.fix issue content).map fun result =>
        { result with content := withReturns result.content } := by
  obtain ⟨planner, known, follows⟩ := exists_planner builtin
  rw [follows, follows, planner_withReturns without feeds sameTree issue known]
  cases planned : planner issue content with
  | error obstacle => cases obstacle <;> rfl
  | ok p =>
    exact congrArg Except.ok (carryOut_withReturns without feeds (planner_placed known planned))

/-- A source with an array parameter without a value type. -/
def arrayParameter : Text := "<?php\n/** @param array $a */\nfunction f(array $a) \x7b\x7d\n"

/-- The diagnostic about the parameter. -/
def untypedValues : Issue :=
  ⟨"a.php", 3, "parameter $a has no iterable value type", none, none⟩

/-- The type in the docblock is completed in both line endings. -/
theorem returns_same_fix_sample :
    ∃ fixer ∈ builtins Php.declarations?, fixer.name = "IterableValueTypeFixer" ∧ ∃ result,
      fixer.fix untypedValues arrayParameter = .ok result ∧
      result.content = "<?php\n/** @param array<mixed> $a */\nfunction f(array $a) \x7b\x7d\n" ∧
      fixer.fix untypedValues (withReturns arrayParameter) =
        .ok { result with content := withReturns result.content } := by
  have builtin : (builtins Php.declarations?)[13] ∈ builtins Php.declarations? :=
    List.getElem_mem (by decide)
  have paired := returns_same_fix builtin untypedValues
    (by decide : ('\n' : CodePoint) ∈ arrayParameter) (by decide) (by decide +kernel)
  have completed : ((builtins Php.declarations?)[13].fix untypedValues arrayParameter).map
      (·.content) =
        .ok "<?php\n/** @param array<mixed> $a */\nfunction f(array $a) \x7b\x7d\n" := by
    decide +kernel
  cases plain : (builtins Php.declarations?)[13].fix untypedValues arrayParameter with
  | error thrown =>
    rw [plain] at completed
    cases completed
  | ok result =>
    rw [plain] at completed paired
    exact ⟨_, builtin, rfl, result, plain, Except.ok.inj completed, paired⟩

end DocRepair
