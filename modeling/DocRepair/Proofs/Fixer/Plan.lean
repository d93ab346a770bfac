import DocRepair.Proofs.Batch.Steps
import DocRepair.Proofs.Fixer.TagEdit
import DocRepair.Proofs.Outcome
import DocRepair.Proofs.Pattern.Captures

/-!
What the fixers set out to do.

Every fixer looks for a place and then makes one of three edits: it adds a tag above a declaration,
completes a bare type in a docblock, or puts an inline docblock above a line.
-/

namespace DocRepair

open Docblock Text

/-- What a fixer sets out to do. -/
inductive Plan where
  /-- A tag above a declaration. -/
  | tag (a : Addition)
  /-- A value type for the bare type that ends at a position in the block above a line. -/
  | complete (line : Int) (tagName : Text) (variableName : Option Text) (block : Location)
      (stop : Nat)
  /-- An inline docblock for a variable above a line. -/
  | inline (line : Int) (variableName : Text)

namespace Plan

def isDeclaredAbove (variableName : Text) (lines : List Text) (index : Nat) : Bool :=
  (if index = 0 then none else lines[index - 1]?).any
    (Fixer.inlineDeclaration variableName).occursIn

def carryOut (issue : Issue) (content : Text) : Plan → FixResult
  | .tag a => a.apply issue content
  | .complete line tagName variableName block stop =>
    .success issue
      ((LineEnding.detect content).join (replaceLines (fileLines content) block.firstLine
        block.lastLine (Text.lines (block.text.take stop ++ "<mixed>" ++ block.text.drop stop))))
      (some ("Added iterable value type for " ++ variableName.getD ("@" ++ tagName)))
      ["Added <mixed> value type to @" ++ tagName ++ " at line " ++ Text.ofInt line]
  | .inline line variableName =>
    if line < 1 || ((fileLines content).length : Int) < line then
      .failure issue content "Invalid line number"
    else if isDeclaredAbove variableName (fileLines content) (line - 1).toNat then
      .failure issue content ("Inline @var annotation already exists for " ++ variableName)
    else
      .success issue
        ((LineEnding.detect content).join (Fixer.insertInline (fileLines content)
          (line - 1).toNat (Fixer.inlineBlock variableName)))
        (some ("Added inline @var annotation for " ++ variableName))
        ["Added " ++ Fixer.inlineBlock variableName ++ " at line " ++ Text.ofInt line]

/-- What a fixer does that has a plan, or meets an obstacle. -/
def answer (issue : Issue) (content : Text) :
    Except Fixer.Obstacle Plan → Except Thrown FixResult
  | .ok plan => .ok (plan.carryOut issue content)
  | .error (.reason text) => .ok (.failure issue content text)
  | .error (.thrown fault) => .error fault

/-- The result of a plan, or of the reason why there is none. -/
def settle (issue : Issue) (content : Text) : Except Text Plan → FixResult
  | .ok plan => plan.carryOut issue content
  | .error reason => .failure issue content reason

end Plan

namespace Fixer

def tagPlan (analyze : Analyzer) (target : Issue → Text → SourceTree → Except Obstacle Addition)
    (issue : Issue) (content : Text) : Except Obstacle Plan :=
  match analyze content with
  | none => .error (.reason "Could not parse file")
  | some tree => (target issue content tree).map .tag

def valueTypeAddition (line : Int) (tag : Text) (variableName : Option Text) (type : Text) :
    Addition where
  line
  tag
  value := match variableName with
    | some name => type ++ " " ++ name
    | none => type
  present annotations := (annotations.listOf tag).any (isAbout tag variableName)
  presentReason := "@" ++ tag ++ " annotation already exists for " ++ variableName.getD ("@" ++ tag)
  description := "Added iterable value type for " ++ variableName.getD ("@" ++ tag)

/-- The plan to give a tag above a line a value type. -/
def valueTypePlanAt (content : Text) (line : Int) (tag : Text) (variableName : Option Text)
    (type : Text) : Except Obstacle Plan :=
  match Docblock.locate? (fileLines content) (line - 1) with
  | none => .ok (.tag (valueTypeAddition line tag variableName type))
  | some block =>
    if (((parse block.text).listOf tag).filter (isAbout tag variableName)).any
        (fun entry => entry.type.any (·.contains '<')) then
      .error (.reason "Iterable value type already exists")
    else
      match (bareTag tag variableName).search? block.text with
      | some found => .ok (.complete line tag variableName block found.stop)
      | none => .ok (.tag (valueTypeAddition line tag variableName type))

/-- The declaration that lacks a value type: its line, the tag, the variable and the type. -/
def valueTypeTarget (issue : Issue) (tree : SourceTree) :
    Except Obstacle (Int × Text × Option Text × Text) := do
  if issue.message.stripLeft.lower.startsWith "property" then
    let name ← require (Message.propertyName? issue.message) "Could not extract property name"
    let declared ← require ((tree.locateClass? issue.line).bind (·.property? name))
      "Could not find property declaration"
    return (declared.line, "var", some ("$" ++ name), completedType issue.message declared.type)
  else
    let located ← require (tree.locate? issue.line SourceTree.bodyTolerance)
      "Could not find function/method near specified line"
    if (Pattern.anyCase "return type").occursIn issue.message then
      return (located.line, "return", none,
        completedType issue.message located.declaration.returnType)
    else
      let parameter ← require (iterableParameter? issue.message located.declaration)
        "Could not determine parameter name"
      return (located.line, "param", some ("$" ++ parameter.1),
        completedType issue.message parameter.2)

def valueTypePlan (analyze : Analyzer) (issue : Issue) (content : Text) : Except Obstacle Plan :=
  match analyze content with
  | none => .error (.reason "Could not parse file")
  | some tree =>
    match valueTypeTarget issue tree with
    | .error obstacle => .error obstacle
    | .ok (line, tag, variableName, type) => valueTypePlanAt content line tag variableName type

def inlinePlan (issue : Issue) (_ : Text) : Except Obstacle Plan :=
  match undefinedVariableName? issue.message with
  | none => .error (.reason "Could not extract variable name")
  | some name => .ok (.inline issue.line ("$" ++ name))

/-- The plans of the fixers that are always there, in the order of their registration. -/
def plans (analyze : Analyzer) : List (Issue → Text → Except Obstacle Plan) :=
  [tagPlan analyze fun issue _ tree => returnAddition issue tree,
    tagPlan analyze fun issue _ tree => parameterAddition issue tree,
    tagPlan analyze fun issue _ tree => propertyAddition issue tree,
    tagPlan analyze fun issue _ tree => readonlyAddition issue tree,
    inlinePlan,
    tagPlan analyze fun issue _ tree => methodAddition issue tree,
    tagPlan analyze fun issue _ tree => throwsAddition issue tree,
    tagPlan analyze fun issue _ tree => callableAddition issue tree,
    tagPlan analyze fun issue content tree => mixinAddition issue content tree,
    tagPlan analyze fun issue _ tree => purityAddition issue tree,
    tagPlan analyze fun issue _ tree => classAddition sealedClass issue tree,
    tagPlan analyze fun issue _ tree => classAddition requireExtends issue tree,
    tagPlan analyze fun issue _ tree => classAddition requireImplements issue tree,
    valueTypePlan analyze]

/-- A plan says what a fixer does. -/
def Follows (fixer : Fixer) (plan : Issue → Text → Except Obstacle Plan) : Prop :=
  ∀ issue content, fixer.fix issue content = Plan.answer issue content (plan issue content)

theorem answer_tagPlan (analyze : Analyzer)
    (target : Issue → Text → SourceTree → Except Obstacle Addition) (issue : Issue)
    (content : Text) :
    Plan.answer issue content (tagPlan analyze target issue content) =
      withTree analyze issue content fun tree =>
        annotate issue content (target issue content tree) := by
  rw [tagPlan, withTree]
  cases analyze content with
  | none => rfl
  | some tree =>
    simp only
    cases target issue content tree with
    | ok a => rfl
    | error obstacle => cases obstacle <;> rfl

theorem answer_inlinePlan (issue : Issue) (content : Text) :
    Plan.answer issue content (inlinePlan issue content) =
      .ok (fixUndefinedVariable issue content) := by
  rw [inlinePlan, fixUndefinedVariable]
  cases undefinedVariableName? issue.message <;> rfl

theorem answer_valueTypePlanAt (issue : Issue) (content : Text) (line : Int) (tag : Text)
    (variableName : Option Text) (type : Text) :
    Plan.answer issue content (valueTypePlanAt content line tag variableName type) =
      .ok (addValueType issue content line tag variableName type) := by
  have own : (LineEnding.detect content).split content = fileLines content := rfl
  simp only [valueTypePlanAt, addValueType, own]
  cases Docblock.locate? (fileLines content) (line - 1) with
  | none => rfl
  | some block =>
    simp only [completeBareType?]
    split
    · rfl
    · cases (bareTag tag variableName).search? block.text <;> rfl

theorem answer_valueTypePlan (analyze : Analyzer) (issue : Issue) (content : Text) :
    Plan.answer issue content (valueTypePlan analyze issue content) =
      fixValueType analyze issue content := by
  rw [valueTypePlan, fixValueType, withTree]
  cases analyze content with
  | none => rfl
  | some tree =>
    simp only [valueTypeTarget, fixPropertyValueType]
    by_cases property : issue.message.stripLeft.lower.startsWith "property" = true
    · simp only [if_pos property]
      cases Message.propertyName? issue.message with
      | none => rfl
      | some name =>
        simp only [require, bind, Except.bind]
        cases (tree.locateClass? issue.line).bind (·.property? name) with
        | none => rfl
        | some declared => exact answer_valueTypePlanAt ..
    · simp only [if_neg property, fixCallableValueType]
      cases tree.locate? issue.line SourceTree.bodyTolerance with
      | none => rfl
      | some located =>
        simp only [require, bind, Except.bind]
        by_cases result : (Pattern.anyCase "return type").occursIn issue.message = true
        · simp only [if_pos result]
          exact answer_valueTypePlanAt ..
        · simp only [if_neg result]
          cases iterableParameter? issue.message located.declaration with
          | none => rfl
          | some parameter => exact answer_valueTypePlanAt ..

theorem follows_tagPlan {analyze : Analyzer} {fixer : Fixer}
    {target : Issue → Text → SourceTree → Except Obstacle Addition}
    (fixes : ∀ issue content, fixer.fix issue content =
      withTree analyze issue content fun tree =>
        annotate issue content (target issue content tree)) :
    Follows fixer (tagPlan analyze target) := by
  intro issue content
  rw [fixes, answer_tagPlan]

theorem builtins_follow (analyze : Analyzer) :
    List.Forall₂ Follows (builtins analyze) (plans analyze) := by
  have tagged := @follows_tagPlan analyze
  exact .cons (tagged fun _ _ => rfl) <| .cons (tagged fun _ _ => rfl) <|
    .cons (tagged fun _ _ => rfl) <| .cons (tagged fun _ _ => rfl) <|
    .cons (fun issue content => (answer_inlinePlan issue content).symm) <|
    .cons (tagged fun _ _ => rfl) <| .cons (tagged fun _ _ => rfl) <|
    .cons (tagged fun _ _ => rfl) <| .cons (tagged fun _ _ => rfl) <|
    .cons (tagged fun _ _ => rfl) <| .cons (tagged fun _ _ => rfl) <|
    .cons (tagged fun _ _ => rfl) <| .cons (tagged fun _ _ => rfl) <|
    .cons (fun issue content => (answer_valueTypePlan analyze issue content).symm) .nil

theorem exists_planner {analyze : Analyzer} {fixer : Fixer} (builtin : fixer ∈ builtins analyze) :
    ∃ planner ∈ plans analyze, Follows fixer planner := by
  obtain ⟨length, follow⟩ := List.forall₂_iff_get.mp (builtins_follow analyze)
  obtain ⟨⟨i, inside⟩, rfl⟩ := List.mem_iff_get.mp builtin
  exact ⟨_, List.get_mem _ ⟨i, length ▸ inside⟩, follow i inside (length ▸ inside)⟩

/-- The reason of a failure for an obstacle that a fixer has met. -/
def Obstacle.text (fixer : Fixer) : Obstacle → Text
  | .reason text => text
  | .thrown fault => Registry.thrownText fixer fault

/-- The plan of the first of several fixers that claims a diagnostic. -/
def planAmong (issue : Issue) (content : Text) :
    List (Fixer × (Issue → Text → Except Obstacle Plan)) → Except Text Plan
  | [] => .error "No strategy could fix this issue"
  | (fixer, plan) :: rest =>
    if fixer.claims issue then (plan issue content).mapError (Obstacle.text fixer)
    else planAmong issue content rest

/-- What is planned about a diagnostic in a run without a configuration. -/
def plan (analyze : Analyzer) (issue : Issue) (content : Text) : Except Text Plan :=
  planAmong issue content ((builtins analyze).zip (plans analyze))

end Fixer

open Fixer

theorem Fixer.Follows.result_settle {fixer : Fixer} {planned : Issue → Text → Except Obstacle Plan}
    (follows : Follows fixer planned) (issue : Issue) (content : Text) :
    (Registry.settle fixer issue content).result =
      Plan.settle issue content ((planned issue content).mapError (Obstacle.text fixer)) := by
  rw [Registry.settle, follows issue content]
  cases planned issue content with
  | ok plan => rfl
  | error obstacle => cases obstacle <;> rfl

/-- In a run without a configuration, the plan is carried out. -/
theorem Batch.standardHandle_eq_settle (analyze : Analyzer) (issue : Issue) (content : Text) :
    (standardHandle analyze issue content).result =
      Plan.settle issue content (plan analyze issue content) := by
  have follow := builtins_follow analyze
  rw [standardHandle, plan]
  generalize builtins analyze = fixers at follow ⊢
  generalize plans analyze = planned at follow ⊢
  induction follow with
  | nil => rfl
  | @cons fixer planned fixers plans follows _ ih =>
    rw [List.zip_cons_cons, planAmong]
    by_cases claimed : fixer.claims issue = true
    · simp only [List.find?_cons, claimed, ↓reduceIte, follows.result_settle]
    · rw [if_neg claimed]
      rw [Bool.not_eq_true] at claimed
      simpa only [List.find?_cons, claimed] using ih

/-! ### Places -/

namespace Fixer

/-- The lines above which the fixers put tags for a diagnostic. -/
inductive Site (issue : Issue) (tree : SourceTree) : Int → Prop
  /-- A declaration that begins on the line of the diagnostic. -/
  | signature {l : Located}
    (found : tree.locate? issue.line SourceTree.signatureTolerance = some l) :
    Site issue tree l.line
  /-- A declaration that begins near the line. -/
  | body {l : Located} (found : tree.locate? issue.line SourceTree.bodyTolerance = some l) :
    Site issue tree l.line
  /-- The class around the line. -/
  | owner {c : ClassLike} (found : tree.locateClass? issue.line = some c) :
    Site issue tree c.firstLine
  /-- A property of the class around the line. -/
  | member {c : ClassLike} {p : Property} (found : tree.locateClass? issue.line = some c)
    (declared : p ∈ c.properties) : Site issue tree p.line
  /-- The first property of a name, in any class. -/
  | anywhere {name : Text} {p : Property} (found : tree.firstProperty? name = some p) :
    Site issue tree p.line

theorem require_bind_ok {α β : Type} {found : Option α} {reason : Text}
    {next : α → Except Obstacle β}
    {b : β} (done : (require found reason >>= next) = .ok b) :
    ∃ a, found = some a ∧ next a = .ok b := by
  cases found with
  | none => cases done
  | some a => exact ⟨a, rfl, done⟩

/-- A target only gives tags that go to a site. -/
def Sited (target : Issue → Text → SourceTree → Except Obstacle Addition) : Prop :=
  ∀ issue content tree a, target issue content tree = .ok a → Site issue tree a.line

theorem returnAddition_sited : Sited fun issue _ tree => returnAddition issue tree := by
  intro issue content tree a done
  obtain ⟨l, found, done⟩ := require_bind_ok done
  cases done
  exact .signature found

theorem parameterAddition_sited : Sited fun issue _ tree => parameterAddition issue tree := by
  intro issue content tree a done
  obtain ⟨name, _, done⟩ := require_bind_ok done
  obtain ⟨position, _, done⟩ := Outcome.bind_eq_ok_iff.mp done
  obtain ⟨l, found, done⟩ := require_bind_ok done
  cases done
  exact .body found

theorem propertyAddition_sited : Sited fun issue _ tree => propertyAddition issue tree := by
  intro issue content tree a done
  obtain ⟨name, _, done⟩ := require_bind_ok done
  obtain ⟨c, found, done⟩ := require_bind_ok done
  simp only at done
  split at done
  · rename_i p declared
    cases done
    exact .member found (List.mem_of_find?_eq_some declared)
  · cases done
    exact .owner found

theorem readonlyAddition_sited : Sited fun issue _ tree => readonlyAddition issue tree := by
  intro issue content tree a done
  obtain ⟨name, _, done⟩ := require_bind_ok done
  obtain ⟨p, found, done⟩ := require_bind_ok done
  cases done
  exact .anywhere found

theorem methodAddition_sited : Sited fun issue _ tree => methodAddition issue tree := by
  intro issue content tree a done
  obtain ⟨name, _, done⟩ := require_bind_ok done
  obtain ⟨c, found, done⟩ := require_bind_ok done
  cases done
  exact .owner found

theorem throwsAddition_sited : Sited fun issue _ tree => throwsAddition issue tree := by
  intro issue content tree a done
  obtain ⟨l, found, done⟩ := require_bind_ok done
  cases done
  exact .body found

theorem callableAddition_sited : Sited fun issue _ tree => callableAddition issue tree := by
  intro issue content tree a done
  obtain ⟨name, _, done⟩ := require_bind_ok done
  obtain ⟨l, found, done⟩ := require_bind_ok done
  cases done
  exact .body found

theorem mixinAddition_sited : Sited mixinAddition := by
  intro issue content tree a done
  obtain ⟨c, found, done⟩ := require_bind_ok done
  simp only at done
  split at done
  · cases done
  · obtain ⟨mixin, _, done⟩ := require_bind_ok done
    cases done
    exact .owner found

theorem purityAddition_sited : Sited fun issue _ tree => purityAddition issue tree := by
  intro issue content tree a done
  obtain ⟨l, found, done⟩ := require_bind_ok done
  cases done
  exact .body found

theorem classAddition_sited (c : ClassTag) :
    Sited fun issue _ tree => classAddition c issue tree := by
  intro issue content tree a done
  obtain ⟨name, _, done⟩ := require_bind_ok done
  obtain ⟨c, found, done⟩ := require_bind_ok done
  cases done
  exact .owner found

theorem valueTypeTarget_site {issue : Issue} {tree : SourceTree} {line : Int} {tag type : Text}
    {variableName : Option Text}
    (done : valueTypeTarget issue tree = .ok (line, tag, variableName, type)) :
    Site issue tree line := by
  rw [valueTypeTarget] at done
  split at done
  · obtain ⟨name, _, done⟩ := require_bind_ok done
    obtain ⟨p, found, done⟩ := require_bind_ok done
    obtain ⟨c, owner, declared⟩ := Option.bind_eq_some_iff.mp found
    cases done
    exact .member owner (List.mem_of_find?_eq_some declared)
  · obtain ⟨l, found, done⟩ := require_bind_ok done
    split at done
    · cases done
      exact .body found
    · obtain ⟨parameter, _, done⟩ := require_bind_ok done
      cases done
      exact .body found

end Fixer

/-- Where a plan puts its edit: above a site, in the block that ends there, or above the line of
the diagnostic. -/
def Plan.Placed (analyze : Analyzer) (issue : Issue) (content : Text) : Plan → Prop
  | .tag a => ∃ tree, analyze content = some tree ∧ Site issue tree a.line
  | .complete line _ _ block _ =>
    (∃ tree, analyze content = some tree ∧ Site issue tree line) ∧
      Docblock.locate? (fileLines content) (line - 1) = some block
  | .inline line variableName => line = issue.line ∧ ('\n' : CodePoint) ∉ variableName

namespace Fixer

variable {analyze : Analyzer} {issue : Issue} {content : Text} {p : Plan}

theorem tagPlan_placed {target : Issue → Text → SourceTree → Except Obstacle Addition}
    (sited : Sited target) (planned : tagPlan analyze target issue content = .ok p) :
    p.Placed analyze issue content := by
  rw [tagPlan] at planned
  split at planned
  · cases planned
  · rename_i tree read
    cases done : target issue content tree with
    | error obstacle => simp [done, Except.map] at planned
    | ok a =>
      rw [done] at planned
      cases planned
      exact ⟨tree, read, sited _ _ _ _ done⟩

theorem valueTypePlan_placed (planned : valueTypePlan analyze issue content = .ok p) :
    p.Placed analyze issue content := by
  rw [valueTypePlan] at planned
  split at planned
  · cases planned
  · rename_i tree read
    split at planned
    · cases planned
    · rename_i line tag variableName type done
      have site : ∃ tree, analyze content = some tree ∧ Site issue tree line :=
        ⟨tree, read, valueTypeTarget_site done⟩
      rw [valueTypePlanAt] at planned
      split at planned
      · cases planned
        exact site
      · rename_i block located
        split at planned
        · cases planned
        · split at planned
          · cases planned
            exact ⟨site, located⟩
          · cases planned
            exact site

theorem inlinePlan_placed (planned : inlinePlan issue content = .ok p) :
    p.Placed analyze issue content := by
  rw [inlinePlan] at planned
  split at planned
  · cases planned
  · rename_i name found
    cases planned
    refine ⟨rfl, ?_⟩
    have word := Message.firstName?_word (by decide +kernel) found
    intro member
    rcases List.mem_append.mp member with dollar | inside
    · simp at dollar
    · have feed := word _ inside
      revert feed
      decide

theorem planner_placed {planner : Issue → Text → Except Obstacle Plan}
    (known : planner ∈ plans analyze) (planned : planner issue content = .ok p) :
    p.Placed analyze issue content := by
  revert planner
  simp only [plans, List.forall_mem_cons, List.not_mem_nil, false_imp_iff, implies_true, and_true]
  exact ⟨tagPlan_placed returnAddition_sited, tagPlan_placed parameterAddition_sited,
    tagPlan_placed propertyAddition_sited, tagPlan_placed readonlyAddition_sited,
    inlinePlan_placed, tagPlan_placed methodAddition_sited,
    tagPlan_placed throwsAddition_sited, tagPlan_placed callableAddition_sited,
    tagPlan_placed mixinAddition_sited, tagPlan_placed purityAddition_sited,
    tagPlan_placed (classAddition_sited _), tagPlan_placed (classAddition_sited _),
    tagPlan_placed (classAddition_sited _), valueTypePlan_placed⟩

theorem plan_placed (planned : plan analyze issue content = .ok p) :
    p.Placed analyze issue content := by
  have among : ∀ planners : List (Fixer × (Issue → Text → Except Obstacle Plan)),
      (∀ planner ∈ planners, planner.2 ∈ plans analyze) →
        planAmong issue content planners = .ok p → p.Placed analyze issue content := by
    intro planners
    induction planners with
    | nil => intro _ planned; cases planned
    | cons planner rest ih =>
      intro known planned
      rw [planAmong] at planned
      split at planned
      · exact planner_placed (known planner (by simp)) (Outcome.mapError_eq_ok_iff.mp planned)
      · exact ih (fun other member => known other (by simp [member])) planned
  exact among _ (fun planner member => (List.of_mem_zip member).2) planned

end Fixer

theorem Batch.exists_plan_of_success {analyze : Analyzer} {issue : Issue} {content : Text}
    (success : (standardHandle analyze issue content).result.isSuccess = true) :
    ∃ p, plan analyze issue content = .ok p ∧ p.Placed analyze issue content ∧
      (standardHandle analyze issue content).result = p.carryOut issue content := by
  rw [standardHandle_eq_settle] at success ⊢
  cases planned : plan analyze issue content with
  | error reason =>
    rw [planned] at success
    cases success
  | ok p => exact ⟨p, rfl, plan_placed planned, rfl⟩

end DocRepair
