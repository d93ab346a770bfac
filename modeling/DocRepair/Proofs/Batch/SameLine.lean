import DocRepair.Proofs.Batch.Accounting
import DocRepair.Proofs.Batch.BottomUp
import DocRepair.Proofs.Batch.Repetition
import DocRepair.Proofs.Fixer.AnnotationFrame

/-!
Several diagnostics on one line.

They are handled in the order in which they come. The order does not matter exactly if no fix
changes what is to be done about the next diagnostic. But a tag moves the declaration below it away
from the line of the diagnostics that wait, and a missing result is only looked for on that line.
-/

namespace DocRepair

open Docblock Fixer SourceTree Text

namespace Batch

/-- Which diagnostics of a run are fixed. -/
def verdicts (b : Batch) (issues : List Issue) (content : Text) : List (Issue × Bool) :=
  (b.fixIssues issues content).map fun handled => (handled.result.issue, handled.result.isSuccess)

/-- Diagnostics on one line are handled in the order in which they come. -/
theorem bottomUp_sameLine {line : Int} {issues : List Issue}
    (same : ∀ issue ∈ issues, issue.line = line) : bottomUp issues = issues := by
  apply bottomUp_of_sorted
  rw [List.pairwise_iff_forall_sublist]
  intro a b pair
  have both := pair.subset
  exact Int.le_of_eq ((same b (both (by simp))).trans (same a (both (by simp))).symm)

/-- Whether a diagnostic is fixed in a content. -/
def isFixed (analyze : Analyzer) (issue : Issue) (content : Text) : Bool :=
  (standardHandle analyze issue content).result.isSuccess

theorem isFixed_eq_iff (analyze : Analyzer) (issue : Issue) (content other : Text) :
    isFixed analyze issue content = isFixed analyze issue other ↔
      (Settled analyze issue content ↔ Settled analyze issue other) := by
  rw [← standardHandle_fails_iff, ← standardHandle_fails_iff, ← isFixed, ← isFixed]
  cases isFixed analyze issue content <;> cases isFixed analyze issue other <;> simp

/-- What becomes of diagnostics in a given order. -/
def verdictsInOrder (analyze : Analyzer) : List Issue → Text → List (Issue × Bool)
  | [], _ => []
  | issue :: rest, content =>
    (issue, isFixed analyze issue content) ::
      verdictsInOrder analyze rest (next content (standardHandle analyze issue content).result)

theorem verdictsInOrder_eq (analyze : Analyzer) (issues : List Issue) (content : Text) :
    ((standard analyze).handleAll issues content).map
        (fun handled => (handled.result.issue, handled.result.isSuccess)) =
      verdictsInOrder analyze issues content := by
  induction issues generalizing content with
  | nil => rfl
  | cons issue rest ih =>
    have faithful : (standard analyze).registry.IsFaithful := Registry.standard_isFaithful analyze
    have own := handle_issue faithful issue content
    rw [handleAll, List.map_cons, ih, own, verdictsInOrder, isFixed, standard_handle]

theorem verdicts_sameLine (analyze : Analyzer) {line : Int} {issues : List Issue}
    (same : ∀ issue ∈ issues, issue.line = line) (content : Text) :
    (standard analyze).verdicts issues content = verdictsInOrder analyze issues content := by
  rw [verdicts, fixIssues, bottomUp_sameLine same, verdictsInOrder_eq]

theorem lastAfter_standard_cons (analyze : Analyzer) (issue : Issue) (rest : List Issue)
    (content : Text) :
    (standard analyze).lastAfter (issue :: rest) content =
      (standard analyze).lastAfter rest
        (next content (standardHandle analyze issue content).result) := by
  rw [lastAfter_cons, standard_handle]

/-! ### When the order does not matter -/

variable {analyze : Analyzer} {content : Text}

theorem keys_verdictsInOrder (issues : List Issue) :
    (verdictsInOrder analyze issues content).map (·.1) = issues := by
  induction issues generalizing content with
  | nil => rfl
  | cons issue rest ih => rw [verdictsInOrder, List.map_cons, ih]

theorem mem_verdictsInOrder (analyze : Analyzer) (content : Text) (done : List Issue)
    (issue : Issue) (rest : List Issue) :
    (issue, isFixed analyze issue ((standard analyze).lastAfter done content)) ∈
      verdictsInOrder analyze (done ++ issue :: rest) content := by
  induction done generalizing content with
  | nil => exact List.mem_cons_self
  | cons first done ih =>
    rw [lastAfter_standard_cons]
    exact List.mem_cons_of_mem _ (ih _)

theorem verdictsInOrder_eq_map {issues : List Issue} {fixed : Issue → Bool}
    (steady : ∀ done issue rest, issues = done ++ issue :: rest →
      isFixed analyze issue ((standard analyze).lastAfter done content) = fixed issue) :
    verdictsInOrder analyze issues content = issues.map fun issue => (issue, fixed issue) := by
  induction issues generalizing content with
  | nil => rfl
  | cons issue rest ih =>
    have first := steady [] issue rest rfl
    have others := ih fun done later behind same =>
      lastAfter_standard_cons analyze issue done content ▸
        steady (issue :: done) later behind (by rw [same, List.cons_append])
    rw [verdictsInOrder, List.map_cons, others]
    exact congrArg (fun fixed => (issue, fixed) :: _) first

/-- Of different diagnostics all orders give the same verdicts, if and only if none changes whether
the next one is fixed. -/
theorem verdictsInOrder_perm_iff {issues : List Issue} (distinct : issues.Nodup) :
    (∀ others, others.Perm issues →
        (verdictsInOrder analyze others content).Perm (verdictsInOrder analyze issues content)) ↔
      ∀ done first second rest, (done ++ first :: second :: rest).Perm issues →
        isFixed analyze second ((standard analyze).lastAfter (done ++ [first]) content) =
          isFixed analyze second ((standard analyze).lastAfter done content) := by
  constructor
  · intro free done first second rest order
    have swapped : (done ++ second :: first :: rest).Perm issues :=
      (List.Perm.append_left done (List.Perm.swap first second rest)).trans order
    have late := mem_verdictsInOrder analyze content (done ++ [first]) second rest
    rw [List.append_assoc, List.singleton_append] at late
    have early := mem_verdictsInOrder analyze content done second (first :: rest)
    have unique : ((verdictsInOrder analyze issues content).map (·.1)).Nodup := by
      rwa [keys_verdictsInOrder]
    have same := List.inj_on_of_nodup_map unique ((free _ order).mem_iff.mp late)
      ((free _ swapped).mem_iff.mp early) rfl
    exact congrArg Prod.snd same
  · intro steady others order
    have alone : ∀ done issue rest, (done ++ issue :: rest).Perm issues →
        isFixed analyze issue ((standard analyze).lastAfter done content) =
          isFixed analyze issue content := by
      -- A diagnostic comes first step by step, changing places with the one before it.
      intro done
      induction done using List.reverseRecOn with
      | nil => exact fun _ _ _ => rfl
      | append_singleton done last ih =>
        intro issue rest order
        rw [List.append_assoc, List.singleton_append] at order
        rw [steady done last issue rest order]
        exact ih issue (last :: rest)
          ((List.Perm.append_left done (List.Perm.swap last issue rest)).trans order)
    have fixed : ∀ others, others.Perm issues → verdictsInOrder analyze others content =
        others.map fun issue => (issue, isFixed analyze issue content) := fun others order =>
      verdictsInOrder_eq_map fun done issue rest same => alone done issue rest (same ▸ order)
    rw [fixed others order, fixed issues (List.Perm.refl _)]
    exact order.map _

/-- Of different diagnostics on one line all orders give the same verdicts, if and only if none
changes whether the next one in any order is settled. -/
theorem verdicts_perm_iff {line : Int} {issues : List Issue}
    (same : ∀ issue ∈ issues, issue.line = line) (distinct : issues.Nodup) :
    (∀ others, others.Perm issues →
        ((standard analyze).verdicts others content).Perm
          ((standard analyze).verdicts issues content)) ↔
      ∀ done first second rest, (done ++ first :: second :: rest).Perm issues →
        (Settled analyze second ((standard analyze).finalContent (done ++ [first]) content) ↔
          Settled analyze second ((standard analyze).finalContent done content)) := by
  have verdicts : ∀ others, others.Perm issues → (standard analyze).verdicts others content =
      verdictsInOrder analyze others content := fun others order =>
    verdicts_sameLine analyze (fun issue member => same issue (order.mem_iff.mp member)) _
  have contents : ∀ part, part ⊆ issues → (standard analyze).finalContent part content =
      (standard analyze).lastAfter part content := by
    intro part known
    rw [finalContent, fixIssues, bottomUp_sameLine fun issue member => same issue (known member)]
    rfl
  rw [verdicts issues (.refl _)]
  refine Iff.trans (forall₂_congr fun others order => by rw [verdicts others order])
    ((verdictsInOrder_perm_iff distinct).trans ?_)
  refine forall₄_congr fun done first second rest => forall_congr' fun order => ?_
  have front : done ++ [first] ⊆ issues := fun issue member =>
    order.subset (by simp at member ⊢; tauto)
  rw [isFixed_eq_iff, contents _ front,
    contents done fun issue member => front (List.mem_append_left _ member)]

end Batch

/-! ### A result and a parameter on one line -/

namespace SourceTree

/-- After lines have been added above a declaration, none begins on its old line. -/
theorem locate?_movedFrom_signature (tree : SourceTree) (line : Int) {added : Int}
    (grows : 0 < added) : (tree.movedFrom line added).locate? line signatureTolerance = none := by
  rw [locate?, movedFrom, callables_relabel, List.find?_eq_none]
  intro moved member
  obtain ⟨l, _, rfl⟩ := List.mem_map.mp member
  rw [isNear_signature, Located.line_relabel]
  split <;> omega

theorem isNear_body (line target : Int) :
    isNear bodyTolerance line target = true ↔ target - 5 ≤ line ∧ line ≤ target + 5 := by
  rw [isNear, bodyTolerance, decide_eq_true_eq]
  omega

/-- If they are few, the declaration still begins near its old line, and no other one comes near. -/
theorem locate?_movedFrom_body {tree : SourceTree} {line added : Int} {l : Located}
    (found : tree.locate? line bodyTolerance = some l) (starts : l.line = line)
    (grows : 0 ≤ added) (few : added ≤ bodyTolerance) :
    (tree.movedFrom line added).locate? line bodyTolerance =
      some (l.relabel fun n => if line ≤ n then n + added else n) := by
  obtain ⟨_, front, back, callables, far⟩ := List.find?_eq_some_iff_append.mp found
  rw [bodyTolerance] at few
  refine List.find?_eq_some_iff_append.mpr
    ⟨?_, front.map (·.relabel fun n => if line ≤ n then n + added else n),
      back.map (·.relabel fun n => if line ≤ n then n + added else n), ?_, ?_⟩
  · simp only [Located.line_relabel, starts, Int.le_refl, ↓reduceIte, isNear_body]
    omega
  · rw [movedFrom, callables_relabel, callables, List.map_append, List.map_cons]
  · intro moved member
    obtain ⟨other, earlier, rfl⟩ := List.mem_map.mp member
    have away := far other earlier
    rw [Bool.not_eq_true', ← Bool.not_eq_true, isNear_body] at away ⊢
    rw [Located.line_relabel]
    split <;> omega

end SourceTree

namespace Fixer

def parameterTag (l : Located) (position : Option Nat) (name : Text) : Addition where
  line := l.line
  tag := "param"
  value := parameterType l.declaration name (position.getD 0) ++ " " ++ ("$" ++ name)
  present annotations := annotations.hasName "param" ("$" ++ name)
  presentReason := "@param annotation already exists for " ++ ("$" ++ name)
  description := "Added @param annotation for " ++ ("$" ++ name)

/-- What is done about a parameter without a type. A position with too many digits is thrown. -/
theorem fixMissingParameter_eq {analyze : Analyzer} {issue : Issue} {content name : Text}
    {tree : SourceTree} {l : Located} (read : analyze content = some tree)
    (named : Message.parameterName? issue.message = some name)
    (found : tree.locate? issue.line bodyTolerance = some l) :
    fixMissingParameter analyze issue content =
      ((Message.parameterPosition? issue.message).mapError (·.thrown)).map fun position =>
        (parameterTag l position name).apply issue content := by
  rw [fixMissingParameter, withTree, read]
  simp only [parameterAddition, named, found]
  cases Message.parameterPosition? issue.message <;> rfl

end Fixer

theorem Batch.standardHandle_missingParameter (analyze : Analyzer) {issue : Issue}
    (claimed : Message.isMissingParameter issue.message = true)
    (other : Message.isMissingReturn issue.message = false) (content : Text) :
    ∃ fixer : Fixer, fixer.fix = fixMissingParameter analyze ∧
      standardHandle analyze issue content = Registry.settle fixer issue content := by
  have second : (builtins analyze).find? (fun fixer => fixer.claims issue) =
      some (plain "MissingParamDocblockFixer" 90
        "Adds @param annotations when PHPStan reports missing parameter types"
        Message.isMissingParameter (fixMissingParameter analyze)) := by
    rw [builtins, List.find?_cons_of_neg (by simpa [plain] using other)]
    exact List.find?_cons_of_pos claimed
  rw [standardHandle, second]
  exact ⟨_, rfl, rfl⟩

/-- Two diagnostics about a declaration that begins on a line: one misses its result type, the
other one the type of a parameter. The parser sees an edit for either of them as what it is. -/
structure SharedSignature (analyze : Analyzer) (content : Text) (line : Int)
    (result parameter : Issue) (name : Text) (tree : SourceTree) (l : Located) : Prop where
  read : analyze content = some tree
  uniform : UniformEndings content
  inside : 1 ≤ line ∧ line ≤ (fileLines content).length
  begins : tree.locate? line signatureTolerance = some l
  near : tree.locate? line bodyTolerance = some l
  resultLine : result.line = line
  parameterLine : parameter.line = line
  missesResult : Message.isMissingReturn result.message = true
  missesType : Message.isMissingParameter parameter.message = true
  differs : Message.isMissingReturn parameter.message = false
  named : Message.parameterName? parameter.message = some name
  moves : ∀ issue ∈ [result, parameter],
    Step.Moves analyze ⟨issue, [], content, Batch.standardHandle analyze issue content⟩

namespace SharedSignature

variable {analyze : Analyzer} {content : Text} {line : Int} {result parameter : Issue} {name : Text}
  {tree : SourceTree} {l : Located}
  (shared : SharedSignature analyze content line result parameter name tree l)

include shared

theorem line_eq : l.line = line := line_of_locate? shared.begins

theorem issue_line {issue : Issue} (member : issue ∈ [result, parameter]) : issue.line = line := by
  rcases List.mem_cons.mp member with rfl | other
  · exact shared.resultLine
  · exact List.mem_singleton.mp other ▸ shared.parameterLine

theorem handle_result :
    Batch.standardHandle analyze result content = ⟨(returnTag l).apply result content, none⟩ := by
  rw [← Batch.standard_handle, Batch.standard_handle_missingReturn analyze shared.missesResult,
    missingReturnResult, shared.read]
  simp only [shared.resultLine, shared.begins]

theorem handle_parameter {position : Option Nat}
    (placed : Message.parameterPosition? parameter.message = .ok position) :
    Batch.standardHandle analyze parameter content =
      ⟨(parameterTag l position name).apply parameter content, none⟩ := by
  obtain ⟨fixer, fixes, handled⟩ := Batch.standardHandle_missingParameter analyze
    shared.missesType shared.differs content
  rw [handled, Registry.settle, fixes, fixMissingParameter_eq shared.read shared.named
    (shared.parameterLine ▸ shared.near), placed]
  rfl

/-- A parameter is only documented if its position can be read. -/
theorem exists_position
    (success : (Batch.standardHandle analyze parameter content).result.isSuccess = true) :
    ∃ position, Message.parameterPosition? parameter.message = .ok position := by
  cases placed : Message.parameterPosition? parameter.message with
  | ok position => exact ⟨position, rfl⟩
  | error fault =>
    obtain ⟨fixer, fixes, handled⟩ := Batch.standardHandle_missingParameter analyze
      shared.missesType shared.differs content
    rw [handled, Registry.settle, fixes, fixMissingParameter_eq shared.read shared.named
      (shared.parameterLine ▸ shared.near), placed] at success
    cases success

theorem moved {issue : Issue} (member : issue ∈ [result, parameter]) {a : Addition}
    (at' : a.line = line)
    (handled : Batch.standardHandle analyze issue content = ⟨a.apply issue content, none⟩)
    (success : (a.apply issue content).isSuccess = true) :
    ∃ added : Int, 0 < added ∧ (a.apply issue content).content = a.editedContent content ∧
      added = (a.editedLines content).length - (fileLines content).length ∧
      analyze (a.editedContent content) = some (tree.movedFrom line added) := by
  have free := shared.uniform.free
  have inside := shared.inside
  have place : a.index < (fileLines content).length := by
    rw [Addition.index]
    omega
  have edited : (a.apply issue content).content = a.editedContent content := by
    rw [a.apply_eq free] at success ⊢
    split at success
    · cases success
    · rename_i within
      split at success
      · cases success
      · rename_i absent
        rw [if_neg within, if_neg absent]
        rfl
  have lines : (LineEnding.detect content).split (a.editedContent content) =
      a.editedLines content :=
    LineEnding.split_join _ (a.edited_ne_nil free place) (a.edited_free free)
  have longer := a.editAt_longer a.index free
  have length := a.edited_length free place
  have moves := shared.moves issue member
  have after : Step.after ⟨issue, [], content, Batch.standardHandle analyze issue content⟩ =
      a.editedContent content := by
    rw [Step.after, handled, Batch.next, if_pos success, edited]
  have line := shared.issue_line member
  refine ⟨(a.editedLines content).length - (fileLines content).length, by omega, edited, rfl, ?_⟩
  have tree := moves (by rw [Step.succeeds, handled]; exact success) tree shared.read l
    (line ▸ shared.begins)
  rwa [Step.addedLines, after, lines, shared.line_eq] at tree

/-- Once the parameter is documented, no declaration begins on the line of the missing result. -/
theorem result_after_parameter
    (success : (Batch.standardHandle analyze parameter content).result.isSuccess = true) :
    Batch.isFixed analyze result
      (Batch.next content (Batch.standardHandle analyze parameter content).result) = false := by
  obtain ⟨position, placed⟩ := shared.exists_position success
  have handled := shared.handle_parameter placed
  rw [handled] at success ⊢
  obtain ⟨added, grows, edited, _, tree⟩ := shared.moved (by simp) shared.line_eq handled success
  have after : Batch.next content ((parameterTag l position name).apply parameter content) =
      (parameterTag l position name).editedContent content := by
    rw [Batch.next, if_pos success, edited]
  rw [after, Batch.isFixed, ← Batch.standard_handle,
    Batch.standard_handle_missingReturn analyze shared.missesResult, missingReturnResult, tree]
  simp only [shared.resultLine, locate?_movedFrom_signature _ _ grows]
  rfl

theorem verdicts_pair {first second : Issue} (here : first ∈ [result, parameter])
    (there : second ∈ [result, parameter]) :
    (Batch.standard analyze).verdicts [first, second] content =
      [(first, Batch.isFixed analyze first content),
        (second, Batch.isFixed analyze second
          (Batch.next content (Batch.standardHandle analyze first content).result))] := by
  have lines : ∀ issue ∈ [first, second], issue.line = line := by
    intro issue member
    rcases List.mem_cons.mp member with rfl | last
    · exact shared.issue_line here
    · exact List.mem_singleton.mp last ▸ shared.issue_line there
  rw [Batch.verdicts_sameLine analyze lines]
  rfl

theorem verdicts_parameter_first
    (success : (Batch.standardHandle analyze parameter content).result.isSuccess = true) :
    (Batch.standard analyze).verdicts [parameter, result] content =
      [(parameter, true), (result, false)] := by
  rw [shared.verdicts_pair (by simp) (by simp), shared.result_after_parameter success,
    Batch.isFixed, success]

variable (bare : locateAt? (fileLines content) (line - 1).toNat = none)

include bare

theorem apply_bare (a : Addition) (at' : a.line = line) (issue : Issue) :
    (a.apply issue content).isSuccess = true := by
  have inside := shared.inside
  have within : ¬(a.line < 1 ∨ ((fileLines content).length : Int) < a.line) := by omega
  have absent : a.isPresentAt (fileLines content) a.index = false := by
    rw [Addition.isPresentAt, Addition.index, at', bare]
  rw [a.apply_eq shared.uniform.free, if_neg within, if_neg (by simp [absent])]
  rfl

/-- The content after the result of a declaration without a docblock has been documented: the
declaration is three lines further down, below a docblock with no other tag. -/
theorem exists_after_result (single : ('\n' : CodePoint) ∉ returnType l.declaration) :
    ∃ edited, Batch.next content (Batch.standardHandle analyze result content).result = edited ∧
      analyze edited = some (tree.movedFrom line 3) ∧
      (∀ line ∈ fileLines edited, ('\n' : CodePoint) ∉ line) ∧
      (fileLines edited).length = (fileLines content).length + 3 ∧
      ∃ block, locateAt? (fileLines edited) ((line - 1).toNat + 3) = some block ∧
        ∀ tag : Text, tag ≠ "return" → (parse block.text).listOf tag = [] := by
  have success := shared.apply_bare bare (returnTag l) shared.line_eq result
  obtain ⟨added, grows, edited, lines, moved⟩ := shared.moved (by simp) shared.line_eq
    shared.handle_result success
  have position : (returnTag l).index = (line - 1).toNat := by
    rw [Addition.index, ← shared.line_eq]
    rfl
  have missing : locateAt? (fileLines content) (returnTag l).index = none := position ▸ bare
  have inside := shared.inside
  have place : (returnTag l).index < (fileLines content).length := by omega
  obtain ⟨count, annotated⟩ := (returnTag l).exists_annotated shared.uniform
    (isTag_of_mem_tagOrder "return" (by decide +kernel)) single (by simp [missing]) place
    (by simp [Addition.isPresentAt, missing])
  obtain ⟨_, three, block, _, found, entries⟩ := annotated.created missing
  have same : fileLines ((returnTag l).editedContent content) = (returnTag l).editedLines content :=
    fileLines_join ((returnTag l).edited_ne_nil shared.uniform.free place)
      ((returnTag l).edited_free shared.uniform.free) annotated.ending
  have length := annotated.length
  have shift : added = 3 := by
    rw [← same] at lines
    omega
  refine ⟨(returnTag l).editedContent content, ?_, shift ▸ moved, ?_, three ▸ length,
    _, by rw [← position, ← three]; exact found, ?_⟩
  · rw [shared.handle_result, Batch.next, if_pos success, edited]
  · rw [same]
    exact (returnTag l).edited_free shared.uniform.free
  · intro tag other
    rw [entries]
    exact if_neg other

/-- The declaration is still near, and its parameter can be documented. -/
theorem parameter_after_result {position : Option Nat}
    (placed : Message.parameterPosition? parameter.message = .ok position)
    (single : ('\n' : CodePoint) ∉ returnType l.declaration) :
    Batch.isFixed analyze parameter
      (Batch.next content (Batch.standardHandle analyze result content).result) = true := by
  obtain ⟨edited, after, moved, free, length, block, found, entries⟩ :=
    shared.exists_after_result bare single
  have located := locate?_movedFrom_body shared.near shared.line_eq (show (0 : Int) ≤ 3 by decide)
    (by decide)
  obtain ⟨fixer, fixes, handled⟩ := Batch.standardHandle_missingParameter analyze
    shared.missesType shared.differs edited
  rw [after, Batch.isFixed, handled, Registry.settle, fixes,
    fixMissingParameter_eq moved shared.named
      ((congrArg (locate? _ · bodyTolerance) shared.parameterLine).trans located), placed]
  simp only [Outcome.mapError_ok, Except.map]
  have lower : (l.relabel fun n => if line ≤ n then n + 3 else n).line = line + 3 := by
    rw [Located.line_relabel, shared.line_eq, if_pos (Int.le_refl _)]
  generalize (l.relabel fun n => if line ≤ n then n + 3 else n) = below at lower ⊢
  generalize written : parameterTag below position name = a
  have at' : a.line = line + 3 := by rw [← written]; exact lower
  have inside := shared.inside
  have within : ¬(a.line < 1 ∨ ((fileLines edited).length : Int) < a.line) := by omega
  have absent : ¬a.isPresentAt (fileLines edited) a.index = true := by
    have index : a.index = (line - 1).toNat + 3 := by
      rw [Addition.index, at']
      omega
    have none := entries "param" (by decide)
    rw [Addition.isPresentAt, index, found, ← written]
    simp [parameterTag, Annotations.hasName, none]
  rw [a.apply_eq free, if_neg within, if_neg absent]
  rfl

theorem verdicts_result_first {position : Option Nat}
    (placed : Message.parameterPosition? parameter.message = .ok position)
    (single : ('\n' : CodePoint) ∉ returnType l.declaration) :
    (Batch.standard analyze).verdicts [result, parameter] content =
      [(result, true), (parameter, true)] := by
  rw [shared.verdicts_pair (by simp) (by simp), shared.parameter_after_result bare placed single,
    Batch.isFixed, shared.handle_result,
    shared.apply_bare bare (returnTag l) shared.line_eq result]

end SharedSignature

/-- Diagnostics on one line. For different ones the order does not matter exactly if none changes
whether the next one in any order is settled. Of a missing result and a missing parameter type of
one declaration, the result is never documented after the parameter. The other way round both are,
if the declaration has no docblock yet and the position of the parameter can be read. -/
theorem same_line_orders (analyze : Analyzer) (content : Text) (line : Int) :
    (∀ issues : List Issue, (∀ issue ∈ issues, issue.line = line) → issues.Nodup →
      ((∀ others, others.Perm issues →
          ((Batch.standard analyze).verdicts others content).Perm
            ((Batch.standard analyze).verdicts issues content)) ↔
        ∀ done first second rest, (done ++ first :: second :: rest).Perm issues →
          (Settled analyze second
              ((Batch.standard analyze).finalContent (done ++ [first]) content) ↔
            Settled analyze second ((Batch.standard analyze).finalContent done content)))) ∧
      ∀ result parameter name tree l,
        SharedSignature analyze content line result parameter name tree l →
        (((Batch.standard analyze).handle parameter content).result.isSuccess = true →
          (Batch.standard analyze).verdicts [parameter, result] content =
            [(parameter, true), (result, false)]) ∧
        (locateAt? (fileLines content) (line - 1).toNat = none →
          ('\n' : CodePoint) ∉ returnType l.declaration →
          (∃ position, Message.parameterPosition? parameter.message = .ok position) →
          (Batch.standard analyze).verdicts [parameter, result] content =
              [(parameter, true), (result, false)] ∧
            (Batch.standard analyze).verdicts [result, parameter] content =
              [(result, true), (parameter, true)]) := by
  refine ⟨fun issues same distinct => Batch.verdicts_perm_iff same distinct,
    fun result parameter name tree l shared => ?_⟩
  rw [Batch.standard_handle]
  refine ⟨shared.verdicts_parameter_first, fun bare single ⟨position, placed⟩ =>
    ⟨shared.verdicts_parameter_first ?_, shared.verdicts_result_first bare placed single⟩⟩
  rw [shared.handle_parameter placed]
  exact shared.apply_bare bare (parameterTag l position name) shared.line_eq parameter

/-- A function without types. -/
def untypedFunction : Text := "<?php\nfunction f($a) \x7b\x7d\n"

def resultMissing : Issue := ⟨"a.php", 2, "Function f() has no return type specified.", none, none⟩

/-- The type of its parameter is missing, too. -/
def typeMissing : Issue :=
  ⟨"a.php", 2, "Function f() has parameter $a with no type specified.", none, none⟩

/-- The order decides whether the result of the function is documented. -/
theorem same_line_orders_sample :
    (Batch.standard Php.declarations?).verdicts [typeMissing, resultMissing] untypedFunction =
        [(typeMissing, true), (resultMissing, false)] ∧
      (Batch.standard Php.declarations?).verdicts [resultMissing, typeMissing] untypedFunction =
        [(resultMissing, true), (typeMissing, true)] ∧
      ¬∀ others, others.Perm [typeMissing, resultMissing] →
        ((Batch.standard Php.declarations?).verdicts others untypedFunction).Perm
          ((Batch.standard Php.declarations?).verdicts [typeMissing, resultMissing]
            untypedFunction) := by
  have shared : SharedSignature Php.declarations? untypedFunction 2 resultMissing typeMissing "a"
      { functions :=
        [{ name := "f", firstLine := 2, lastLine := 2, parameters := [⟨"a", none, 0⟩] }] }
      ⟨{ name := "f", firstLine := 2, lastLine := 2, parameters := [⟨"a", none, 0⟩] }, none⟩ :=
    ⟨by decide +kernel, .inl (by decide +kernel), by decide +kernel, by decide +kernel,
      by decide +kernel, rfl, rfl, by decide +kernel, by decide +kernel, by decide +kernel,
      by decide +kernel, by decide +kernel⟩
  obtain ⟨one, other⟩ := ((same_line_orders Php.declarations? untypedFunction 2).2 _ _ _ _ _
    shared).2 (by decide +kernel) (by decide +kernel) ⟨none, by decide +kernel⟩
  refine ⟨one, other, fun free => ?_⟩
  have swapped := free [resultMissing, typeMissing] (List.Perm.swap _ _ _)
  rw [one, other] at swapped
  have missed : (resultMissing, false) ∈ [(resultMissing, true), (typeMissing, true)] :=
    swapped.mem_iff.mpr (by simp)
  revert missed
  decide

end DocRepair
