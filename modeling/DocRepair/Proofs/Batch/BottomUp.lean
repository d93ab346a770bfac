import DocRepair.Php.Grammar
import DocRepair.Proofs.Batch.Steps
import DocRepair.Proofs.Fixer.TagEdit
import DocRepair.Proofs.Php.Slices
import DocRepair.Proofs.Source.Relabel

/-!
Missing result types, handled from the bottom up.

Every edit moves the lines from its declaration on, and leaves the lines above and the declarations
there as they were. So each diagnostic meets the declaration that stood on its line at first,
unless an earlier edit has changed the line endings of the file.
-/

namespace DocRepair

open Docblock SourceTree Text

/-- The declarations of a source, read off the tree that a parser gives. -/
def Php.analyzerOf (parse : Text → Option Php.Node) : Analyzer := fun source =>
  (parse source).map (·.declarations source)

namespace Fixer

def returnTag (l : Located) : Addition where
  line := l.line
  tag := "return"
  value := returnType l.declaration
  present annotations := annotations.hasTag "return"
  presentReason := "@return annotation already exists"
  description := "Added @return " ++ returnType l.declaration ++ " annotation"

/-- The reason where no declaration begins on a line. -/
def noDeclaration : Text := "Could not find function/method at specified line"

def missingReturnResult (analyze : Analyzer) (issue : Issue) (content : Text) : FixResult :=
  match analyze content with
  | none => .failure issue content "Could not parse file"
  | some tree =>
    match tree.locate? issue.line signatureTolerance with
    | none => .failure issue content noDeclaration
    | some l => (returnTag l).apply issue content

theorem fixMissingReturn_eq (analyze : Analyzer) (issue : Issue) (content : Text) :
    fixMissingReturn analyze issue content = .ok (missingReturnResult analyze issue content) := by
  rw [fixMissingReturn, withTree, missingReturnResult]
  cases analyze content with
  | none => rfl
  | some tree =>
    simp only [returnAddition]
    cases tree.locate? issue.line signatureTolerance <;> rfl

theorem returnType_relabel (f : Int → Int) (l : Located) :
    returnType (l.relabel f).declaration = returnType l.declaration :=
  rfl

end Fixer

open Fixer

theorem Batch.standard_handle_missingReturn (analyze : Analyzer) {issue : Issue}
    (claimed : Message.isMissingReturn issue.message = true) (content : Text) :
    (standard analyze).handle issue content =
      ⟨missingReturnResult analyze issue content, none⟩ := by
  have first : (builtins analyze).find? (fun fixer => fixer.claims issue) =
      some (plain "MissingReturnDocblockFixer" 100
        "Adds @return annotation when PHPStan reports missing return type"
        Message.isMissingReturn (fixMissingReturn analyze)) := by
    rw [builtins]
    exact List.find?_cons_of_pos claimed
  have fixes := fixMissingReturn_eq analyze issue content
  rw [standard_handle, standardHandle, first]
  simp only [Registry.settle, plain, fixes]

/-! ### Lines above a place -/

/-- A content that differs from another only from the line before a place on: it has the same line
endings, no fewer lines, the same lines above, and each line before the place is indented as it
was. -/
structure KeptAbove (content current : Text) (place : Int) : Prop where
  ending : LineEnding.detect current = LineEnding.detect content
  free : ∀ line ∈ fileLines current, ('\n' : CodePoint) ∉ line
  longer : (fileLines content).length ≤ (fileLines current).length
  above : ∀ i : Nat, (i : Int) + 1 < place →
    (fileLines current).take i = (fileLines content).take i ∧
      ((fileLines current)[i]?).map indent = ((fileLines content)[i]?).map indent

theorem keptAbove_refl {content : Text} (uniform : UniformEndings content) (place : Int) :
    KeptAbove content content place :=
  ⟨rfl, uniform.free, Nat.le_refl _, fun _ _ => ⟨rfl, rfl⟩⟩

namespace KeptAbove

variable {content current : Text} {place : Int} (kept : KeptAbove content current place)
  (a : Addition) (early : a.line < place) (positive : 1 ≤ a.line)
  (inside : a.line ≤ (fileLines content).length)

include kept early positive inside

theorem index_lt : a.index < (fileLines current).length ∧ (a.index : Int) + 1 < place ∧
    a.index < (fileLines content).length := by
  have longer := kept.longer
  rw [Addition.index]
  omega

/-- The same block is found above a line before the place. -/
theorem locateAt?_eq :
    locateAt? (fileLines current) a.index = locateAt? (fileLines content) a.index := by
  obtain ⟨here, before, there⟩ := kept.index_lt a early positive inside
  exact locateAt?_congr (kept.above a.index before).1 here there

theorem isPresentAt_eq :
    a.isPresentAt (fileLines current) a.index = a.isPresentAt (fileLines content) a.index := by
  rw [Addition.isPresentAt, Addition.isPresentAt, kept.locateAt?_eq a early positive inside]

theorem strayReturns_eq :
    a.strayReturns (fileLines current) a.index = a.strayReturns (fileLines content) a.index := by
  obtain ⟨here, before, there⟩ := kept.index_lt a early positive inside
  have same := (kept.above a.index before).2
  rw [List.getElem?_eq_getElem here, List.getElem?_eq_getElem there] at same
  have margin : ((fileLines current)[a.index]).indent = ((fileLines content)[a.index]).indent := by
    simpa using same
  rw [Addition.strayReturns, Addition.strayReturns, kept.locateAt?_eq a early positive inside,
    List.getElem?_eq_getElem here, List.getElem?_eq_getElem there]
  simp only [Option.getD_some, margin]

/-- Adding a tag before the place keeps what is above the tag. -/
theorem edited
    (tagged : LineEnding.detect content = .lf → PlainLines (tagText a.tag a.value.strip))
    (bare : LineEnding.detect content = .lf → a.strayReturns (fileLines content) a.index = 0) :
    KeptAbove content (a.editedContent current) a.line := by
  obtain ⟨here, before, there⟩ := kept.index_lt a early positive inside
  have free := kept.free
  have ending := a.detect_edited free here (fun style => tagged (kept.ending ▸ style))
    (fun style => by
      rw [kept.strayReturns_eq a early positive inside]
      exact bare (kept.ending ▸ style))
  have lines : fileLines (a.editedContent current) = a.editedLines current :=
    fileLines_join (a.edited_ne_nil free here) (a.edited_free free) ending
  have longer := a.editAt_longer a.index free
  have length := a.edited_length free here
  have grown := kept.longer
  refine ⟨ending.trans kept.ending, by rw [lines]; exact a.edited_free free, by
    rw [lines]; omega, ?_⟩
  intro i higher
  obtain ⟨front, margin⟩ := a.editAt_above a.index free here
  obtain ⟨same, indented⟩ := kept.above i (by omega)
  have position : (a.index : Int) + 1 = a.line := by
    rw [Addition.index]
    omega
  have short : min i (a.index - 1) = i := by omega
  rw [lines, Addition.editedLines]
  constructor
  · rw [← same, ← short, ← List.take_take, front, List.take_take]
  · rw [← indented]
    by_cases last : i = a.index - 1
    · rw [last]
      exact margin (by omega)
    · have lower : i < a.index - 1 := by omega
      rw [← List.getElem?_take_of_lt lower, front, List.getElem?_take_of_lt lower]

end KeptAbove

/-! ### What is asked of the parser, and what a step comes to -/

namespace Step

/-- How many lines a step has added, in the line endings of the content before it. -/
def addedLines (s : Step) : Int :=
  ((LineEnding.detect s.before).split s.after).length - (fileLines s.before).length

/-- The parser sees an edit above a declaration as what it is: the declarations from there on have
moved down by the added lines. -/
def Moves (analyze : Analyzer) (s : Step) : Prop :=
  s.succeeds = true →
    ∀ tree ∈ analyze s.before, ∀ l ∈ tree.locate? s.issue.line signatureTolerance,
      analyze s.after = some (tree.movedFrom l.line s.addedLines)

instance (analyze : Analyzer) (s : Step) : Decidable (s.Moves analyze) :=
  inferInstanceAs (Decidable (s.succeeds = true →
    ∀ tree ∈ analyze s.before, ∀ l ∈ tree.locate? s.issue.line signatureTolerance,
      analyze s.after = some (tree.movedFrom l.line s.addedLines)))

/-- A step deals with the declaration that begins on its line in the first tree: the declaration
has not moved, nor have the lines above it changed, and the tag is added there unless the block
above the declaration carries it already. Without such a declaration the step fails. -/
structure LandsIn (analyze : Analyzer) (tree : SourceTree) (content : Text) (s : Step) : Prop where
  missing : tree.locate? s.issue.line signatureTolerance = none →
    s.handled.result = .failure s.issue s.before noDeclaration
  found : ∀ l ∈ tree.locate? s.issue.line signatureTolerance,
    (∃ f, analyze s.before = some (tree.relabel f) ∧ f l.line = l.line) ∧
      (fileLines s.before).take (returnTag l).index =
        (fileLines content).take (returnTag l).index ∧
      s.handled.result =
        if (returnTag l).isPresentAt (fileLines content) (returnTag l).index then
          .failure s.issue s.before "@return annotation already exists"
        else
          .success s.issue ((returnTag l).editedContent s.before)
            (some ("Added @return " ++ returnType l.declaration ++ " annotation"))
            ["Added " ++ tagText "return" (returnType l.declaration) ++ " at line " ++
              Text.ofInt l.line]

end Step

/-- Whether a diagnostic waits for a declaration below the first line. -/
def Awaits (tree : SourceTree) (pending : List Issue) : Prop :=
  ∃ issue ∈ pending, 2 ≤ issue.line ∧ (tree.locate? issue.line signatureTolerance).isSome

instance (tree : SourceTree) (pending : List Issue) : Decidable (Awaits tree pending) :=
  inferInstanceAs (Decidable (∃ issue ∈ pending,
    2 ≤ issue.line ∧ (tree.locate? issue.line signatureTolerance).isSome))

/-- A diagnostic leads to no stray carriage return in a file with bare line feeds while another one
waits for a declaration. -/
def StrayFree (tree : SourceTree) (content : Text) (issue : Issue) (waiting : List Issue) : Prop :=
  LineEnding.detect content = .lf → Awaits tree waiting →
    ∀ l ∈ tree.locate? issue.line signatureTolerance,
      (returnTag l).isPresentAt (fileLines content) (returnTag l).index = false →
        (returnTag l).strayReturns (fileLines content) (returnTag l).index = 0

instance (tree : SourceTree) (content : Text) (issue : Issue) (waiting : List Issue) :
    Decidable (StrayFree tree content issue waiting) :=
  inferInstanceAs (Decidable (LineEnding.detect content = .lf → Awaits tree waiting →
    ∀ l ∈ tree.locate? issue.line signatureTolerance,
      (returnTag l).isPresentAt (fileLines content) (returnTag l).index = false →
        (returnTag l).strayReturns (fileLines content) (returnTag l).index = 0))

/-- No diagnostic leads to stray carriage returns while one on a line above waits. -/
def NoStrayReturns (tree : SourceTree) (content : Text) (issues : List Issue) : Prop :=
  ∀ issue ∈ issues,
    StrayFree tree content issue (issues.filter fun other => other.line < issue.line)

instance (tree : SourceTree) (content : Text) (issues : List Issue) :
    Decidable (NoStrayReturns tree content issues) :=
  inferInstanceAs (Decidable (∀ issue ∈ issues,
    StrayFree tree content issue (issues.filter fun other => other.line < issue.line)))

/-- The state of a run: the declarations before a place have not moved, the diagnostics that wait
are before it, and the lines above it are kept as long as a declaration is waited for. -/
def Running (analyze : Analyzer) (tree : SourceTree) (content : Text) (pending : List Issue)
    (current : Text) : Prop :=
  ∃ f place, analyze current = some (tree.relabel f) ∧ KeepsBefore place f ∧
    (∀ issue ∈ pending, issue.line < place) ∧
    (Awaits tree pending → KeptAbove content current place)

/-- The state of a run after stray carriage returns: the first line of the file no longer ends where
it did, and a declaration is waited for. -/
def Spoiled (analyze : Analyzer) (tree : SourceTree) (content : Text) (pending : List Issue)
    (current : Text) : Prop :=
  LineEnding.detect current = .crlf ∧ Awaits tree pending ∧
    (∃ f place, analyze current = some (tree.relabel f) ∧ KeepsBefore place f ∧
      ∀ issue ∈ pending, issue.line < place) ∧
    ∃ first more, (fileLines content).head? = some first ∧
      current = first ++ ('\n' : CodePoint) :: more

theorem awaits_congr {tree : SourceTree} {pending others : List Issue}
    (same : ∀ issue, issue ∈ pending ↔ issue ∈ others) :
    Awaits tree pending ↔ Awaits tree others := by
  simp only [Awaits, same]

theorem noStrayReturns_perm {tree : SourceTree} {content : Text} {issues others : List Issue}
    (perm : issues.Perm others) :
    NoStrayReturns tree content issues ↔ NoStrayReturns tree content others := by
  have waiting : ∀ line : Int,
      Awaits tree (issues.filter fun other => other.line < line) ↔
        Awaits tree (others.filter fun other => other.line < line) :=
    fun line => awaits_congr fun issue => (perm.filter _).mem_iff
  simp only [NoStrayReturns, StrayFree, waiting, perm.mem_iff]

/-- From the bottom up, those that wait are those above. -/
theorem noStrayReturns_cons {tree : SourceTree} {content : Text} {issue : Issue}
    {rest : List Issue} (descending : (issue :: rest).Pairwise fun a b => b.line < a.line) :
    NoStrayReturns tree content (issue :: rest) ↔
      StrayFree tree content issue rest ∧ NoStrayReturns tree content rest := by
  obtain ⟨below, later⟩ := List.pairwise_cons.mp descending
  have all : rest.filter (fun other => other.line < issue.line) = rest := by
    rw [List.filter_eq_self]
    intro other member
    simpa using below other member
  have first : (issue :: rest).filter (fun other => other.line < issue.line) = rest := by
    rw [List.filter_cons_of_neg (by simp), all]
  have others : ∀ other ∈ rest,
      (issue :: rest).filter (fun waiting => waiting.line < other.line) =
        rest.filter fun waiting => waiting.line < other.line := by
    intro other member
    have lower := below other member
    rw [List.filter_cons_of_neg (by simp; omega)]
  rw [NoStrayReturns, List.forall_mem_cons, first, NoStrayReturns]
  constructor
  · rintro ⟨here, there⟩
    exact ⟨here, fun other member => others other member ▸ there other member⟩
  · rintro ⟨here, there⟩
    exact ⟨here, fun other member => (others other member).symm ▸ there other member⟩

section

variable {parse : Text → Option Php.Node} {content : Text} {tree : SourceTree}

theorem plainLines_returnTag (read : Php.analyzerOf parse content = some tree) {l : Located}
    (member : l ∈ tree.callables) (bare : LineEnding.detect content = .lf) :
    PlainLines (tagText (returnTag l).tag (returnTag l).value.strip) := by
  obtain ⟨root, _, rfl⟩ := Option.map_eq_some_iff.mp read
  have whole : content.holds "\r\n" = false := by
    by_contra found
    rw [Bool.not_eq_false] at found
    rw [LineEnding.detect, if_pos found] at bare
    cases bare
  have solid : ∀ c ∈ ("return" : Text), c.isBlank = false := by decide
  have typed : (returnType l.declaration).holds "\r\n" = false := by
    rw [returnType]
    split
    · rename_i c rest declared
      have inside := Php.returnType_isInfix member _ declared
      by_contra found
      rw [Bool.not_eq_false, holds_iff_isInfix] at found
      rw [(holds_iff_isInfix content _).mpr (found.trans inside)] at whole
      cases whole
    · split <;> rfl
  exact plainLines_tagText solid typed

end

/-! ### One step -/

section

variable {analyze : Analyzer} {tree : SourceTree} {content current : Text} {issue : Issue}
  {rest : List Issue} (claimed : Message.isMissingReturn issue.message = true)

include claimed

/-- What becomes of a diagnostic on a line before the place from which declarations have moved. -/
theorem handle_before {f : Int → Int} {place : Int}
    (moved : analyze current = some (tree.relabel f)) (keeps : KeepsBefore place f)
    (early : issue.line < place) :
    ((Batch.standard analyze).handle issue current).result =
      match tree.locate? issue.line signatureTolerance with
      | none => .failure issue current noDeclaration
      | some l => (returnTag l).apply issue current := by
  rw [Batch.standard_handle_missingReturn analyze claimed, missingReturnResult, moved]
  simp only [locate?_relabel tree keeps early]
  cases found : tree.locate? issue.line signatureTolerance with
  | none => rfl
  | some l =>
    have line : (l.relabel f).line = l.line := by
      rw [Located.line_relabel, keeps.before]
      rwa [line_of_locate? found]
    have same : returnTag (l.relabel f) = returnTag l := by
      simp only [returnTag, line, returnType_relabel]
    simp only [Option.map_some, same]

variable (starts : ∀ l ∈ tree.callables, 1 ≤ l.line ∧ l.line ≤ (fileLines content).length)

include starts

/-- In a run each diagnostic is settled by the declaration on its line in the first tree. -/
theorem Running.result (running : Running analyze tree content (issue :: rest) current) :
    ((Batch.standard analyze).handle issue current).result =
      match tree.locate? issue.line signatureTolerance with
      | none => .failure issue current noDeclaration
      | some l =>
        if (returnTag l).isPresentAt (fileLines content) (returnTag l).index then
          .failure issue current "@return annotation already exists"
        else
          .success issue ((returnTag l).editedContent current)
            (some ("Added @return " ++ returnType l.declaration ++ " annotation"))
            ["Added " ++ tagText "return" (returnType l.declaration) ++ " at line " ++
              Text.ofInt l.line] := by
  obtain ⟨f, place, moved, keeps, early, kept⟩ := running
  rw [handle_before claimed moved keeps (early issue (by simp))]
  cases found : tree.locate? issue.line signatureTolerance with
  | none => rfl
  | some l =>
    have line := line_of_locate? found
    obtain ⟨positive, inside⟩ := starts l (mem_of_locate? found)
    by_cases first : l.line = 1
    · have top : (returnTag l).index = 0 := by
        show (l.line - 1).toNat = 0
        omega
      simp only [top, Addition.isPresentAt_zero, Bool.false_eq_true, ↓reduceIte]
      exact (returnTag l).apply_first first issue current
    · have awaited : Awaits tree (issue :: rest) := ⟨issue, by simp, by omega, by simp [found]⟩
      have above := kept awaited
      have before : l.line < place := line ▸ early issue (by simp)
      have longer := above.longer
      have within : ¬((returnTag l).line < 1 ∨
          ((fileLines current).length : Int) < (returnTag l).line) := by
        show ¬(l.line < 1 ∨ ((fileLines current).length : Int) < l.line)
        omega
      simp only [(returnTag l).apply_eq above.free, if_neg within,
        above.isPresentAt_eq (returnTag l) before positive inside]
      rfl

/-- In a run each step deals with the declaration on its line in the first tree. -/
theorem Running.landsIn (running : Running analyze tree content (issue :: rest) current) :
    Step.LandsIn analyze tree content
      ⟨issue, rest, current, (Batch.standard analyze).handle issue current⟩ := by
  have result := running.result claimed starts
  obtain ⟨f, place, moved, keeps, early, kept⟩ := running
  refine ⟨fun missing => by simpa [missing] using result, fun l found => ?_⟩
  change tree.locate? issue.line signatureTolerance = some l at found
  simp only [found] at result
  have line := line_of_locate? found
  have before : l.line < place := line ▸ early issue (by simp)
  refine ⟨⟨f, moved, keeps.before _ before⟩, ?_, result⟩
  by_cases first : l.line = 1
  · have top : (returnTag l).index = 0 := by
      show (l.line - 1).toNat = 0
      omega
    simp [top]
  · obtain ⟨positive, inside⟩ := starts l (mem_of_locate? found)
    have awaited : Awaits tree (issue :: rest) := ⟨issue, by simp, by omega, by simp [found]⟩
    obtain ⟨_, higher, _⟩ := (kept awaited).index_lt (returnTag l) before positive inside
    exact ((kept awaited).above _ higher).1

/-- A tag that was missing is added, and the declarations from there on move. -/
theorem Running.moved (running : Running analyze tree content (issue :: rest) current)
    (moves : Step.Moves analyze
      ⟨issue, rest, current, (Batch.standard analyze).handle issue current⟩)
    {l : Located} (found : tree.locate? issue.line signatureTolerance = some l)
    (absent : (returnTag l).isPresentAt (fileLines content) (returnTag l).index = false) :
    Batch.next current ((Batch.standard analyze).handle issue current).result =
        (returnTag l).editedContent current ∧
      ∃ g, analyze ((returnTag l).editedContent current) = some (tree.relabel g) ∧
        KeepsBefore l.line g := by
  have result := running.result claimed starts
  simp only [found, absent, Bool.false_eq_true, ↓reduceIte] at result
  obtain ⟨f, place, moved, keeps, early, kept⟩ := running
  have line := line_of_locate? found
  have before : l.line < place := line ▸ early issue (by simp)
  obtain ⟨positive, inside⟩ := starts l (mem_of_locate? found)
  have located : (tree.relabel f).locate? issue.line signatureTolerance =
      some (l.relabel f) := by
    rw [locate?_relabel tree keeps (early issue (by simp)), found, Option.map_some]
  have next : Batch.next current ((Batch.standard analyze).handle issue current).result =
      (returnTag l).editedContent current := by
    rw [result]
    rfl
  have after := moves (by rw [Step.succeeds, result]; rfl) _ moved _ located
  rw [Step.after, next, movedFrom, relabel_relabel, Located.line_relabel,
    keeps.before _ before] at after
  refine ⟨next, _, after, keeps.moved before ?_⟩
  have edited : (fileLines current).length ≤ ((returnTag l).editedLines current).length ∧
      (returnTag l).editedLines current ≠ [] := by
    by_cases first : l.line = 1
    · have longer := (returnTag l).length_le_edited_first first current
      have some := List.length_pos_iff.mpr (fileLines_ne_nil current)
      exact ⟨longer, List.ne_nil_of_length_pos (by omega)⟩
    · have above := kept ⟨issue, by simp, by omega, by simp [found]⟩
      obtain ⟨here, _, _⟩ := above.index_lt (returnTag l) before positive inside
      have longer := (returnTag l).editAt_longer (returnTag l).index above.free
      have length := (returnTag l).edited_length above.free here
      exact ⟨by omega, (returnTag l).edited_ne_nil above.free here⟩
  have read := LineEnding.length_le_split_join (LineEnding.detect current) edited.2
  simp only [Step.addedLines, Step.after, next, Addition.editedContent]
  omega

/-- Without stray carriage returns the run goes on. -/
theorem Running.next (running : Running analyze tree content (issue :: rest) current)
    (descending : ∀ other ∈ rest, other.line < issue.line)
    (moves : Step.Moves analyze
      ⟨issue, rest, current, (Batch.standard analyze).handle issue current⟩)
    (plain : LineEnding.detect content = .lf → ∀ l ∈ tree.callables,
      PlainLines (tagText (returnTag l).tag (returnTag l).value.strip))
    (strayFree : StrayFree tree content issue rest) :
    Running analyze tree content rest
      (Batch.next current ((Batch.standard analyze).handle issue current).result) := by
  have result := running.result claimed starts
  have unchanged : ∀ reason, ((Batch.standard analyze).handle issue current).result =
      .failure issue current reason → Running analyze tree content rest
        (Batch.next current ((Batch.standard analyze).handle issue current).result) := by
    intro reason failed
    obtain ⟨f, place, moved, keeps, early, kept⟩ := running
    rw [failed]
    exact ⟨f, place, moved, keeps, fun other member => early other (by simp [member]),
      fun ⟨other, member, awaited⟩ => kept ⟨other, by simp [member], awaited⟩⟩
  cases found : tree.locate? issue.line signatureTolerance with
  | none =>
    simp only [found] at result
    exact unchanged _ result
  | some l =>
    simp only [found] at result
    by_cases present : (returnTag l).isPresentAt (fileLines content) (returnTag l).index = true
    · rw [if_pos present] at result
      exact unchanged _ result
    · rw [Bool.not_eq_true] at present
      obtain ⟨next, g, after, keepsNew⟩ := running.moved claimed starts moves found present
      obtain ⟨_, place, _, _, early, kept⟩ := running
      have line := line_of_locate? found
      have before : l.line < place := line ▸ early issue (by simp)
      obtain ⟨positive, inside⟩ := starts l (mem_of_locate? found)
      rw [next]
      refine ⟨g, l.line, after, keepsNew, fun other member => line ▸ descending other member, ?_⟩
      intro awaits
      have above := kept (awaits.imp fun other waiting => ⟨by simp [waiting.1], waiting.2⟩)
      exact above.edited (returnTag l) before positive inside
        (fun bare => plain bare l (mem_of_locate? found))
        (fun bare => strayFree bare awaits l found present)

/-- Stray carriage returns spoil the run while a declaration is waited for. -/
theorem Running.spoiled (running : Running analyze tree content (issue :: rest) current)
    (descending : ∀ other ∈ rest, other.line < issue.line)
    (moves : Step.Moves analyze
      ⟨issue, rest, current, (Batch.standard analyze).handle issue current⟩)
    (plain : LineEnding.detect content = .lf → ∀ l ∈ tree.callables,
      PlainLines (tagText (returnTag l).tag (returnTag l).value.strip))
    (stray : ¬StrayFree tree content issue rest) :
    Spoiled analyze tree content rest
      (Batch.next current ((Batch.standard analyze).handle issue current).result) := by
  simp only [StrayFree, Classical.not_imp, not_forall] at stray
  obtain ⟨bare, awaits, l, found, absent, stray⟩ := stray
  obtain ⟨next, g, after, keepsNew⟩ := running.moved claimed starts moves found absent
  obtain ⟨_, place, _, _, early, kept⟩ := running
  have line := line_of_locate? found
  have before : l.line < place := line ▸ early issue (by simp)
  obtain ⟨positive, inside⟩ := starts l (mem_of_locate? found)
  have above := kept (awaits.imp fun other waiting => ⟨by simp [waiting.1], waiting.2⟩)
  have low : 3 ≤ l.line := by
    obtain ⟨other, member, second, _⟩ := awaits
    have higher := descending other member
    omega
  obtain ⟨here, _, _⟩ := above.index_lt (returnTag l) before positive inside
  have style := above.ending.trans bare
  have tagged := plain bare l (mem_of_locate? found)
  have count := (returnTag l).countP_edited above.free style here tagged
  rw [above.strayReturns_eq (returnTag l) before positive inside] at count
  rw [next]
  refine ⟨?_, awaits, ⟨g, l.line, after, keepsNew,
    fun other member => line ▸ descending other member⟩, ?_⟩
  · have kept := LineEnding.detect_join_lf ((returnTag l).edited_ne_nil above.free here)
      ((returnTag l).edited_free above.free)
    rw [count] at kept
    rw [Addition.editedContent, style]
    cases ending : LineEnding.detect (LineEnding.lf.join ((returnTag l).editedLines current)) with
    | lf => exact absurd (kept.mp ending) stray
    | crlf => rfl
  · obtain ⟨front, _⟩ := (returnTag l).editAt_above (returnTag l).index above.free here
    have short : min 1 ((returnTag l).index - 1) = 1 := by
      show min 1 ((l.line - 1).toNat - 1) = 1
      omega
    have top : ((returnTag l).editedLines current).take 1 = (fileLines content).take 1 := by
      rw [← (above.above 1 (by omega)).1, ← short, ← List.take_take, ← List.take_take,
        Addition.editedLines, front]
    have length := (returnTag l).edited_length above.free here
    have longer := (returnTag l).editAt_longer (returnTag l).index above.free
    have several : 2 ≤ ((returnTag l).editedLines current).length := by omega
    obtain ⟨first, second, others, edited⟩ := exists_two_lines several
    rw [edited, List.take_one, List.take_one] at top
    refine ⟨first, LineEnding.lf.join (second :: others), ?_, ?_⟩
    · cases start : (fileLines content).head? <;> simp_all
    · rw [Addition.editedContent, style, edited, LineEnding.join, LineEnding.text, feed_text,
        join_cons _ _ (by simp)]
      simp [LineEnding.join, LineEnding.text, feed_text]

end

/-! ### Whole runs -/

/-- A line that begins as the first line of the file did cannot end later than that. -/
theorem Spoiled.first_ne {analyze : Analyzer} {tree : SourceTree} {content current : Text}
    {pending : List Issue} (spoiled : Spoiled analyze tree content pending current) {n : Nat}
    (some : 0 < n) : (fileLines current).take n ≠ (fileLines content).take n := by
  obtain ⟨paired, _, _, first, more, start, split⟩ := spoiled
  intro same
  obtain ⟨line, next, others, lines⟩ := exists_two_lines (two_le_length_fileLines paired)
  have whole := join_fileLines current
  have heads := congrArg List.head? same
  rw [List.head?_take, List.head?_take, if_neg (by omega), if_neg (by omega), start, lines,
    List.head?_cons, Option.some.injEq] at heads
  rw [lines, paired, LineEnding.join, LineEnding.text, pair_text, join_cons _ _ (by simp),
    split, heads] at whole
  simp only [List.append_assoc, List.cons_append, List.nil_append, List.append_cancel_left_eq,
    List.cons.injEq] at whole
  exact absurd whole.1 (by decide)

/-- In a spoiled run some step does not deal with the declaration it should. -/
theorem Spoiled.astray {analyze : Analyzer} {tree : SourceTree} {content current : Text}
    {pending : List Issue} (spoiled : Spoiled analyze tree content pending current)
    (claimed : ∀ issue ∈ pending, Message.isMissingReturn issue.message = true)
    (descending : pending.Pairwise fun a b => b.line < a.line) :
    ∃ step ∈ (Batch.standard analyze).steps pending current,
      ¬step.LandsIn analyze tree content := by
  induction pending generalizing current with
  | nil =>
    obtain ⟨_, ⟨_, member, _⟩, _⟩ := spoiled
    simp at member
  | cons issue rest ih =>
    obtain ⟨paired, awaits, ⟨f, place, moved, keeps, early⟩, split⟩ := id spoiled
    have result := handle_before (claimed issue (by simp)) moved keeps (early issue (by simp))
    obtain ⟨higher, later⟩ := List.pairwise_cons.mp descending
    obtain ⟨other, member, low, located⟩ := awaits
    cases found : tree.locate? issue.line signatureTolerance with
    | none =>
      -- The content stays as it is, and the declaration is still waited for.
      simp only [found] at result
      have waiting : other ∈ rest := by
        rcases List.mem_cons.mp member with rfl | deeper
        · simp [found] at located
        · exact deeper
      have unchanged : Batch.next current ((Batch.standard analyze).handle issue current).result =
          current := by
        rw [result]
        rfl
      obtain ⟨step, inside, astray⟩ := ih
        ⟨paired, ⟨other, waiting, low, located⟩,
          ⟨f, place, moved, keeps, fun issue member => early issue (by simp [member])⟩, split⟩
        (fun issue member => claimed issue (by simp [member])) later
      refine ⟨step, ?_, astray⟩
      rw [Batch.steps_cons, unchanged]
      exact List.mem_cons_of_mem _ inside
    | some l =>
      have line := line_of_locate? found
      have below : other.line ≤ issue.line := by
        rcases List.mem_cons.mp member with rfl | deeper
        · exact Int.le_refl _
        · exact Int.le_of_lt (higher other deeper)
      have second : 0 < (returnTag l).index := by
        show 0 < (l.line - 1).toNat
        omega
      refine ⟨_, List.mem_cons_self, fun lands => ?_⟩
      exact spoiled.first_ne second (lands.found l found).2.1

/-- The steps of a run all deal with the declarations they should, if and only if no stray carriage
return comes in while a declaration is waited for. -/
theorem Running.lands_iff {analyze : Analyzer} {tree : SourceTree} {content current : Text}
    {pending : List Issue} (running : Running analyze tree content pending current)
    (starts : ∀ l ∈ tree.callables, 1 ≤ l.line ∧ l.line ≤ (fileLines content).length)
    (plain : LineEnding.detect content = .lf → ∀ l ∈ tree.callables,
      PlainLines (tagText (returnTag l).tag (returnTag l).value.strip))
    (claimed : ∀ issue ∈ pending, Message.isMissingReturn issue.message = true)
    (descending : pending.Pairwise fun a b => b.line < a.line)
    (moves : ∀ step ∈ (Batch.standard analyze).steps pending current, step.Moves analyze) :
    (∀ step ∈ (Batch.standard analyze).steps pending current,
        step.LandsIn analyze tree content) ↔
      NoStrayReturns tree content pending := by
  induction pending generalizing current with
  | nil => simp [Batch.steps, stepsOf, NoStrayReturns]
  | cons issue rest ih =>
    have mine := claimed issue (by simp)
    obtain ⟨higher, later⟩ := List.pairwise_cons.mp descending
    have others := fun issue member => claimed issue (List.mem_cons_of_mem _ member)
    rw [Batch.steps_cons, List.forall_mem_cons] at moves ⊢
    rw [noStrayReturns_cons descending]
    have lands := running.landsIn mine starts
    by_cases strayFree : StrayFree tree content issue rest
    · have goesOn := running.next mine starts higher moves.1 plain strayFree
      rw [ih goesOn others later moves.2]
      exact ⟨fun rest => ⟨strayFree, rest.2⟩, fun rest => ⟨lands, rest.2⟩⟩
    · obtain ⟨step, member, astray⟩ :=
        (running.spoiled mine starts higher moves.1 plain strayFree).astray others later
      exact ⟨fun all => absurd (all.2 step member) astray,
        fun free => absurd free.1 strayFree⟩

/-- In a run from the bottom up, exactly stray carriage returns keep a diagnostic from the
declaration on its line. -/
theorem landsIn_fileSteps_iff {parse : Text → Option Php.Node} {content : Text} {tree : SourceTree}
    (read : Php.analyzerOf parse content = some tree) (uniform : UniformEndings content)
    (starts : ∀ l ∈ tree.callables, 1 ≤ l.line ∧ l.line ≤ (fileLines content).length)
    {issues : List Issue} (distinct : (issues.map (·.line)).Nodup)
    (claimed : ∀ issue ∈ issues, Message.isMissingReturn issue.message = true)
    (moves : ∀ step ∈ (Batch.standard (Php.analyzerOf parse)).fileSteps issues content,
      step.Moves (Php.analyzerOf parse)) :
    (∀ step ∈ (Batch.standard (Php.analyzerOf parse)).fileSteps issues content,
        step.LandsIn (Php.analyzerOf parse) tree content) ↔
      NoStrayReturns tree content issues := by
  have perm := Batch.bottomUp_perm issues
  have descending : (Batch.bottomUp issues).Pairwise fun a b => b.line < a.line := by
    have different : (Batch.bottomUp issues).Pairwise fun a b => a.line ≠ b.line :=
      List.pairwise_map.mp ((perm.map _).nodup_iff.mpr distinct)
    exact ((Batch.bottomUp_sorted issues).and different).imp fun both => by omega
  -- At first nothing has moved, so any place below all diagnostics will do.
  obtain ⟨place, below⟩ : ∃ place : Int, ∀ issue ∈ Batch.bottomUp issues, issue.line < place := by
    cases pending : Batch.bottomUp issues with
    | nil => exact ⟨0, by simp⟩
    | cons first rest =>
      rw [pending, List.pairwise_cons] at descending
      refine ⟨first.line + 1, List.forall_mem_cons.mpr ⟨by omega, fun issue member => ?_⟩⟩
      have lower := descending.1 issue member
      omega
  have running : Running (Php.analyzerOf parse) tree content (Batch.bottomUp issues) content :=
    ⟨id, place, by rw [read, relabel_id], keepsBefore_id place, below,
      fun _ => keptAbove_refl uniform place⟩
  rw [← noStrayReturns_perm perm]
  exact running.lands_iff starts
    (fun bare l member => plainLines_returnTag read member bare)
    (fun issue member => claimed issue (perm.mem_iff.mp member)) descending moves

/-- Missing result types are documented bottom up: every diagnostic meets the declaration on its
line in the first tree, exactly if no stray carriage return comes into a file with bare line feeds
while a diagnostic waits. -/
theorem bottomUp_lands {parse : Text → Option Php.Node} {content : Text} {tree : SourceTree}
    (read : Php.analyzerOf parse content = some tree) (uniform : UniformEndings content)
    (starts : ∀ l ∈ tree.callables, 1 ≤ l.line ∧ l.line ≤ (fileLines content).length)
    {issues : List Issue} (distinct : (issues.map (·.line)).Nodup)
    (claimed : ∀ issue ∈ issues, Message.isMissingReturn issue.message = true)
    (moves : ∀ step ∈ (Batch.standard (Php.analyzerOf parse)).fileSteps issues content,
      step.Moves (Php.analyzerOf parse)) :
    (Batch.standard (Php.analyzerOf parse)).fixIssues issues content =
        ((Batch.standard (Php.analyzerOf parse)).fileSteps issues content).map (·.handled) ∧
      (((Batch.standard (Php.analyzerOf parse)).fileSteps issues content).map (·.issue)).Perm
        issues ∧
      ((∀ step ∈ (Batch.standard (Php.analyzerOf parse)).fileSteps issues content,
          step.LandsIn (Php.analyzerOf parse) tree content) ↔
        NoStrayReturns tree content issues) := by
  refine ⟨Batch.fixIssues_eq_steps _ issues content, ?_,
    landsIn_fileSteps_iff read uniform starts distinct claimed moves⟩
  rw [Batch.fileSteps, Batch.steps_issues]
  exact Batch.bottomUp_perm issues

/-- Two functions, one below a docblock, with both results documented as they should be. -/
theorem bottomUp_lands_sample :
    ∃ tree, Php.analyzerOf Php.tree? "<?php\n/** F */\nfunction f() {}\nfunction g() {}" =
        some tree ∧
      ∀ step ∈ (Batch.standard (Php.analyzerOf Php.tree?)).fileSteps
          [⟨"a.php", 4, "g has no return type", none, none⟩,
            ⟨"a.php", 3, "f has no return type", none, none⟩]
          "<?php\n/** F */\nfunction f() {}\nfunction g() {}",
        step.LandsIn (Php.analyzerOf Php.tree?) tree
          "<?php\n/** F */\nfunction f() {}\nfunction g() {}" := by
  refine ⟨{ functions := [{ name := "f", firstLine := 3, lastLine := 3 },
    { name := "g", firstLine := 4, lastLine := 4 }] }, by decide +kernel, ?_⟩
  refine (bottomUp_lands (by decide +kernel) (.inl (by decide +kernel)) (by decide +kernel)
    (by decide +kernel) (by decide +kernel) ?_).2.2.mpr (by decide +kernel)
  rw [Batch.standard_fileSteps _ (by decide +kernel)]
  decide +kernel

/-- Two functions, the lower one indented by a carriage return, with an empty line inside the
result type. -/
def strayIndentation : Text := "<?php\n\nfunction g() {}\n\rfunction f(): A|\n\nB {}\n"

/-- The docblock of the lower function puts a carriage return before a line feed, and the diagnostic
of the upper one misses its function. -/
theorem bottomUp_lands_excludes :
    ∃ tree, Php.analyzerOf Php.tree? strayIndentation = some tree ∧
      ¬∀ step ∈ (Batch.standard (Php.analyzerOf Php.tree?)).fileSteps
          [⟨"a.php", 4, "f has no return type", none, none⟩,
            ⟨"a.php", 3, "g has no return type", none, none⟩] strayIndentation,
        step.LandsIn (Php.analyzerOf Php.tree?) tree strayIndentation := by
  refine ⟨{ functions := [{ name := "g", firstLine := 3, lastLine := 3 },
    { name := "f", firstLine := 4, lastLine := 6, returnType := some "A|\n\nB" }] },
    by decide +kernel, ?_⟩
  rw [landsIn_fileSteps_iff (by decide +kernel) (.inl (by decide +kernel)) (by decide +kernel)
    (by decide +kernel) (by decide +kernel) ?_]
  · decide +kernel
  · rw [Batch.standard_fileSteps _ (by decide +kernel)]
    decide +kernel

end DocRepair
