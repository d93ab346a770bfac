import DocRepair.Php.Grammar
import DocRepair.Proofs.Php.OrderlyStatements

/-!
Every construct of the grammar reads nodes that lie one behind the other, so the tree of a source is
nested.

The proofs go through the readers step by step. Where a reader branches, what comes behind the
branches is treated once, under the name `done`.
-/

namespace DocRepair.Php.Grammar

open Node Reader

variable {bound : Nat}

/-! ### Types, modifiers and names -/

theorem allows_modifiers : Allows bound (fun _ => []) modifiers := by
  intro first t
  refine (allows_readUntil (.not (.atAnyWord _)) (?_ : Allows bound (fun _ => []) _) _ _).weaken
    (by simp)
  intro first t
  refine .bind (yields_next _ _) fun _ => .look (.atSign _) fun _ => .look .peekSecond fun _ => ?_
  refine .ite ?_ (.pure (by simp))
  exact .bind (yields_next _ _) fun _ => .bind (yields_next _ _) fun _ =>
    (yields_expect _ _ _).weaken (by simp)

theorem looks_isTargetList : Looks isTargetList := .bind .get fun _ => .pure _

theorem yields_nameList : Yields bound id nameList :=
  fun first t => (yields_sepBy1 gives_qualifiedName first t).weaken (by simp)

theorem allows_classParents : Allows bound id classParents := by
  intro first t
  refine .bind ((accepts_acceptWord _).allows _ _) fun _ => ?_
  extract_lets rest
  have done : ∀ extended, Leads bound first ⟨t.moved, t.nodes ++ extended⟩ (rest extended)
      fun nodes => ⟨t.moved, t.nodes ++ nodes⟩ := by
    refine fun extended => .bind ((accepts_acceptWord _).allows _ _) fun _ => ?_
    refine .ite ?_ (.pure_bind (.pure (by simp)))
    exact .bind (yields_nameList _ _) fun _ => .pure (by simp)
  refine .ite ?_ (.pure_bind ((done []).before (by simp)))
  exact .bind (yields_nameList _ _) fun _ => (done _).before (by simp)

theorem types_orderly (fuel : Nat) :
    Yields bound (fun _ => []) (typePart fuel) ∧ Gives bound (typeOf fuel) := by
  induction fuel with
  | zero => exact ⟨fun _ _ => .failure, fun _ _ => .failure⟩
  | succ fuel ih =>
    obtain ⟨part, whole⟩ := ih
    constructor
    · intro first t
      refine .choose (accepts_accept _) ?_ ?_
      · exact .bind (whole _ _) fun _ => (yields_expect _ _ _).weaken (by simp)
      · exact .bind (gives_qualifiedName _ _) fun _ => .pure (by simp)
    · refine gives_node fun first => .choose (accepts_accept _) ?_ ?_
      · exact .bind (part _ _) fun _ => .pure (by simp)
      · refine .bind (part _ _) fun _ => ?_
        extract_lets atEnd
        have looks : Looks atEnd := by
          refine .bind (.atSign _) fun _ => .ite (.pure _) (.bind (.atSign _) fun _ => ?_)
          exact .ite (.bind .peekSecond fun _ => .pure _) (.pure _)
        refine .bind (allows_readUntil looks (?_ : Yields bound (fun _ => []) _).allows _ _)
          fun _ => .pure (by simp)
        exact fun first t => .bind (yields_next _ _) fun _ => (part _ _).weaken (by simp)

theorem gives_typeOf (fuel : Nat) : Gives bound (typeOf fuel) := (types_orderly fuel).2

theorem allows_resultType (fuel : Nat) : Allows bound id (resultType (fuel + 1)) := by
  intro first t
  refine .choose (accepts_accept _) ?_ (.pure (by simp))
  exact .bind (gives_typeOf _ _ _) fun _ => .pure (by simp)

theorem yields_traitUse (fuel : Nat) : Yields bound id (traitUse (fuel + 1)) := by
  intro first t
  refine .bind (yields_expectWord _ _ _) fun _ => .bind (yields_nameList _ _) fun names => ?_
  refine .bind ((accepts_accept _).allows _ _) fun _ => .ite ?_ ?_
  · refine .bind (allows_readUntil (.atSign _) (?_ : Allows bound (fun _ => []) _) _ _) fun _ => ?_
    · refine fun first t => .bind (gives_qualifiedName _ _) fun _ => ?_
      refine .bind ((accepts_accept _).allows _ _) fun _ => ?_
      extract_lets ends rest
      have ending : ∀ u v, v.Covers t → Leads bound first v (ends u) fun _ => t :=
        fun _ _ covers => ((allows_semicolon _ _).before covers).weaken (by simp)
      have done : ∀ u, Leads bound first t (rest u) fun _ => t := by
        refine fun _ => .bind ((accepts_acceptWord _).allows _ _) fun _ => .ite ?_ ?_
        · exact .bind (yields_nameList _ _) fun _ => ending () _ (by simp)
        · refine .bind (yields_expectWord _ _ _) fun _ => .bind (gives_plainName _ _) fun _ => ?_
          refine .look .peek fun _ => .ite ?_ (ending () _ (by simp))
          exact .bind (yields_next _ _) fun _ => ending () _ (by simp)
      refine .ite ?_ (((done ()).before (by simp)).weaken (by simp))
      exact .bind (gives_plainName _ _) fun _ => ((done ()).before (by simp)).weaken (by simp)
    · exact .bind (yields_expect _ _ _) fun _ => .pure (by simp)
  · exact .bind (allows_semicolon _ _) fun _ => .pure (by simp)

theorem yields_importNames (fuel : Nat) : Yields bound id (importNames (fuel + 1)) := by
  intro first t
  refine .bind (yields_expectWord _ _ _) fun _ => ?_
  extract_lets kind otherName
  have kinds : Allows bound (fun _ => []) kind := by
    refine fun first t => .look (.atAnyWord _) fun _ => .look .peekSecond fun _ => ?_
    exact .ite (.bind (yields_next _ _) fun _ => .pure (by simp)) (.pure (by simp))
  have others : Allows bound (fun _ => []) otherName := by
    refine fun first t => .bind ((accepts_acceptWord _).allows _ _) fun _ => ?_
    exact .ite (.bind (gives_plainName _ _) fun _ => .pure (by simp)) (.pure (by simp))
  refine .bind (kinds _ _) fun _ => .bind (yields_sepBy1 (?_ : Yields bound id _) _ _) fun _ => ?_
  · refine fun first t => .bind (kinds _ _) fun _ => .bind (gives_qualifiedName _ _) fun name => ?_
    refine .choose (accepts_accept _) ?_ (.bind (others _ _) fun _ => .pure (by simp))
    refine .bind (yields_expect _ _ _) fun _ => ?_
    refine .bind (yields_listUpTo (?_ : Allows bound (fun n => [n]) _) _ _) fun _ => .pure (by simp)
    refine fun first t => .bind (kinds _ _) fun _ => .bind (gives_qualifiedName _ _) fun _ => ?_
    exact .bind (others _ _) fun _ => .pure (by simp)
  · exact .bind (allows_semicolon _ _) fun _ => .pure (by simp)

/-! ### Expressions, statements and declarations -/

/-- The readers of the grammar at one depth of recursion. Accesses take over the value in front of
them: it becomes the first child of their node. -/
structure Orderly (bound fuel : Nat) : Prop where
  attributes : Allows bound id (attributes fuel)
  arguments : Gives bound (arguments fuel)
  expression : Gives bound (expression fuel)
  operand : Gives bound (operand fuel)
  yielding : Gives bound (yielding fuel)
  assignment : Gives bound (assignment fuel)
  value : Yields bound (fun found => [found.1]) (value fuel)
  accesses (rounds : Nat) (object : Node) (assignable : Bool) (first : Nat) (front : List Node) :
    Leads bound first ⟨true, front ++ [object]⟩ (accesses fuel rounds object assignable)
      fun found => ⟨true, front ++ [found.1]⟩
  memberName : Gives bound (memberName fuel)
  simpleVariable : Gives bound (simpleVariable fuel)
  primary : Yields bound (fun found => [found.1]) (primary fuel)
  bracketed (isTarget : Bool) : Gives bound (bracketed fuel isTarget)
  arrayItem (isTarget : Bool) : Gives bound (arrayItem fuel isTarget)
  arrayItems (close : String) (isTarget : Bool) : Yields bound id (arrayItems fuel close isTarget)
  template : Gives bound (template fuel)
  matching : Gives bound (matching fuel)
  closure : Gives bound (closure fuel)
  creation : Gives bound (creation fuel)
  creationTarget (rounds : Nat) (object : Node) (first : Nat) (front : List Node) :
    Leads bound first ⟨true, front ++ [object]⟩ (creationTarget fuel rounds object)
      fun found => ⟨true, front ++ [found]⟩
  anonymousClass : Gives bound (anonymousClass fuel)
  resultType : Allows bound id (resultType fuel)
  parameterList : Gives bound (parameterList fuel)
  parameter : Gives bound (parameter fuel)
  classBody (hasCases : Bool) : Gives bound (classBody fuel hasCases)
  member (hasCases : Bool) : Gives bound (member fuel hasCases)
  signature : Yields bound id (signature fuel)
  constants : Yields bound id (constants fuel)
  traitUse : Yields bound id (traitUse fuel)
  hookList : Gives bound (hookList fuel)
  block : Gives bound (block fuel)
  statementsUpTo (words : List Text) : Allows bound id (statementsUpTo fuel words)
  loopBody (endWord : Text) : Allows bound id (loopBody fuel endWord)
  condition : Gives bound (condition fuel)
  conditional : Yields bound id (conditional fuel)
  switchCases (atEnd : Reader Bool) (looks : Looks atEnd) :
    Allows bound id (switchCases fuel atEnd)
  guarded : Yields bound id (guarded fuel)
  importNames : Yields bound id (importNames fuel)
  classDeclaration : Yields bound (fun found => found.2) (classDeclaration fuel)
  keywordStatement? (word : Text) (first : Nat) (t : Trace) :
    Leads bound first t (keywordStatement? fuel word) fun found =>
      found.elim t fun nodes => ⟨true, t.nodes ++ nodes⟩
  statement : Gives bound (statement fuel)
  expressionStatement (start : Start) (moved : Bool) (front : List Node) :
    Leads bound start.line ⟨moved, front⟩ (expressionStatement fuel start front)
      fun n => ⟨true, [n]⟩

section

variable {fuel : Nat} (below : Orderly bound fuel)

include below

theorem allows_attributes : Allows bound id (attributes (fuel + 1)) := by
  intro first t
  refine (allows_readUntil (.not (.atSign _)) (gives_node fun first => ?_).allows _ _).weaken
    (by simp)
  refine .bind (yields_next _ _) fun _ => .look (.atSign _) fun _ => ?_
  extract_lets rest
  have done : ∀ u, Leads bound first ⟨true, []⟩ (rest u) fun nodes => ⟨true, nodes⟩ := by
    intro u
    refine .bind (yields_listUpTo (?_ : Allows bound id _) _ _) fun found => .pure (by simp)
    intro first t
    refine .bind (gives_qualifiedName _ _) fun name => .look (.atSign _) fun _ => ?_
    exact .ite (.bind (below.arguments _ _) fun _ => .pure (by simp)) (.pure (by simp))
  exact .ite .failure_bind (done ())

theorem gives_arguments : Gives bound (arguments (fuel + 1)) := by
  refine gives_node fun first => .bind (yields_expect _ _ _) fun _ => ?_
  refine .look (.atSign _) fun _ => .look .peekSecond fun _ => .ite ?_ ?_
  · exact .bind (yields_next _ _) fun _ => .bind (yields_next _ _) fun _ => .pure (by simp)
  · refine (yields_listUpTo (?_ : Allows bound (fun n => [n]) _) _ _).weaken (by simp)
    refine fun first t => .look .peek fun _ => .look .peekSecond fun _ => ?_
    extract_lets rest
    have done : ∀ u t, Leads bound first t (rest u) fun n => ⟨t.moved, t.nodes ++ [n]⟩ := by
      intro u t
      refine .bind ((accepts_accept _).allows _ _) fun _ => ?_
      refine .bind ((accepts_accept _).allows _ _) fun _ => ?_
      exact (below.expression _ _).weaken (by simp)
    refine .ite ?_ (done () t)
    refine .bind (yields_next _ _) fun _ => .bind (yields_next _ _) fun _ => ?_
    exact (done () _).weaken (by simp)

theorem gives_expression : Gives bound (expression (fuel + 1)) := by
  intro first t
  refine .bind (below.operand _ _) fun operand => ?_
  extract_lets atEnd
  have looks : Looks atEnd := by
    refine .bind .peek fun kind => ?_
    split
    · exact .pure _
    · exact .pure _
    · exact .pure _
  refine .look looks fun _ => .ite (.pure (by simp)) (.nodeFrom ?_)
  refine .bind (allows_readUntil looks (?_ : Allows bound id _) _ _) fun more => .pure (by simp)
  refine fun first t => .bind (yields_next _ _) fun token => .ite ?_ ?_
  · refine .choose (accepts_accept _) ?_ ?_
    · exact .bind (below.operand _ _) fun _ => .pure (by simp)
    · refine .bind (below.expression _ _) fun _ => .bind (yields_expect _ _ _) fun _ => ?_
      exact .bind (below.operand _ _) fun _ => .pure (by simp)
  · exact .bind (below.operand _ _) fun _ => .pure (by simp)

theorem gives_operand : Gives bound (operand (fuel + 1)) := by
  intro first t
  refine .look .peek fun kind => ?_
  split
  · refine gives_node (fun first => ?_) first t
    exact .bind (yields_next _ _) fun _ => .bind (below.operand _ _) fun _ => .pure (by simp)
  · refine .ite (gives_node (fun first => ?_) first t) <|
      .ite (gives_node (fun first => ?_) first t) (below.assignment first t)
    · exact .bind (yields_next _ _) fun _ => .bind (below.operand _ _) fun _ => .pure (by simp)
    · exact .bind (below.attributes _ _) fun _ => .bind (below.closure _ _) fun _ =>
        .pure (by simp)
  · extract_lets word
    refine .look .peekSecond fun second => .ite (gives_node (fun first => ?_) first t) <|
      .ite (below.yielding first t) <| .ite (below.closure first t) <|
      .ite (below.closure first t) <| .ite (below.closure first t) (below.assignment first t)
    exact .bind (yields_next _ _) fun _ => .bind (below.expression _ _) fun _ => .pure (by simp)
  · exact below.assignment first t

theorem gives_yielding : Gives bound (yielding (fuel + 1)) := by
  refine gives_node fun first => .bind (yields_expectWord _ _ _) fun _ => ?_
  refine .choose (accepts_acceptWord _) ?_ ?_
  · exact .bind (below.expression _ _) fun _ => .pure (by simp)
  refine .look .atStatementEnd fun _ => .look .peek fun _ => .ite (.pure (by simp)) ?_
  refine .bind (below.expression _ _) fun _ => .choose (accepts_accept _) ?_ (.pure (by simp))
  exact .bind (below.expression _ _) fun _ => .pure (by simp)

theorem gives_assignment : Gives bound (assignment (fuel + 1)) := by
  intro first t
  refine .bind (below.value _ _) fun found => ?_
  obtain ⟨target, assignable⟩ := found
  refine .look .peek fun kind => ?_
  split
  · refine .ite (.nodeFrom ?_) (.pure (by simp))
    refine .bind (yields_next _ _) fun _ => .bind ((accepts_accept _).allows _ _) fun _ => ?_
    exact .bind (below.expression _ _) fun _ => .pure (by simp)
  · exact .pure (by simp)

theorem yields_value : Yields bound (fun found => [found.1]) (value (fuel + 1)) := by
  intro first t
  refine .look (.atWord _) fun _ => .ite ?_ ?_
  · refine .bind (below.creation _ _) fun made => .look .remaining fun rounds => ?_
    exact below.accesses _ _ _ _ _
  · refine .bind (below.primary _ _) fun found => .look .remaining fun rounds => ?_
    exact below.accesses _ _ _ _ _

theorem leads_accesses (rounds : Nat) (object : Node) (assignable : Bool) (first : Nat)
    (front : List Node) :
    Leads bound first ⟨true, front ++ [object]⟩ (accesses (fuel + 1) rounds object assignable)
      fun found => ⟨true, front ++ [found.1]⟩ := by
  cases rounds with
  | zero => exact .pure (by simp)
  | succ rounds =>
    have more := fun found => below.accesses rounds found true first front
    refine .look .peek fun kind => ?_
    split
    · refine .ite ?_ <| .ite ?_ <| .ite ?_ <| .ite ?_ <| .ite ?_ (.pure (by simp))
      · refine .bind (yields_next _ _) fun _ => .bind (below.memberName _ _) fun name => ?_
        extract_lets target
        refine .before (u := ⟨true, front ++ [target, name]⟩) ?_ (by simp [target])
        refine .look (.atSign _) fun _ => .ite (.bind (.nodeFrom ?_) more) ?_
        · exact .bind (below.arguments _ _) fun _ => .pure (by simp)
        · exact .bind (.nodeFrom (.pure (by simp))) more
      · refine .bind (yields_next _ _) fun _ => .look .peek fun kind => .ite ?_ ?_
        · refine .bind (below.simpleVariable _ _) fun name => ?_
          refine .before (u := ⟨true, front ++ [object, name]⟩) ?_ (by simp)
          refine .look (.atSign _) fun _ => .ite (.bind (.nodeFrom ?_) more) ?_
          · exact .bind (below.arguments _ _) fun _ => .pure (by simp)
          · exact .bind (.nodeFrom (.pure (by simp))) more
        · refine .bind (below.memberName _ _) fun name => ?_
          refine .before (u := ⟨true, front ++ [object, name]⟩) ?_ (by simp)
          refine .bind (.nodeFrom (.look (.atSign _) fun _ => .ite ?_ (.pure (by simp)))) more
          exact .bind (below.arguments _ _) fun _ => .pure (by simp)
      · refine .bind (.nodeFrom (.bind (yields_next _ _) fun _ => ?_)) more
        refine .choose (accepts_accept _) (.pure (by simp)) ?_
        refine .bind (below.expression _ _) fun _ => .bind (yields_expect _ _ _) fun _ => ?_
        exact .pure (by simp)
      · refine .bind (.nodeFrom ?_) more
        exact .bind (below.arguments _ _) fun _ => .pure (by simp)
      · refine .bind (.nodeFrom ?_) fun found => .pure (by simp)
        exact .bind (yields_next _ _) fun _ => .pure (by simp)
    · exact .pure (by simp)

theorem gives_memberName : Gives bound (memberName (fuel + 1)) := by
  intro first t
  refine .choose (accepts_accept _) ?_ (.look .atName fun _ => .ite ?_ ?_)
  · refine .bind (below.expression _ _) fun _ => .bind (yields_expect _ _ _) fun _ => ?_
    exact .pure (by simp)
  · exact .bind (gives_plainName _ _) fun _ => .pure (by simp)
  · exact .bind (below.simpleVariable _ _) fun _ => .pure (by simp)

theorem gives_simpleVariable : Gives bound (simpleVariable (fuel + 1)) := by
  intro first t
  refine .look .peek fun _ => .ite (gives_plainVariable _ _) (gives_node (fun first => ?_) _ _)
  refine .bind (yields_expect _ _ _) fun _ => .choose (accepts_accept _) ?_ ?_
  · refine .bind (below.expression _ _) fun _ => .bind (yields_expect _ _ _) fun _ => ?_
    exact .pure (by simp)
  · exact .bind (below.simpleVariable _ _) fun _ => .pure (by simp)

theorem yields_primary : Yields bound (fun found => [found.1]) (primary (fuel + 1)) := by
  intro first t
  refine .look .peek fun kind => ?_
  split
  · exact .bind (gives_plainVariable _ _) fun _ => .pure (by simp)
  · exact .bind (gives_leaf _ _) fun _ => .pure (by simp)
  · exact .bind (gives_leaf _ _) fun _ => .pure (by simp)
  · exact .bind (below.template _ _) fun _ => .pure (by simp)
  · refine .ite ?_ <| .ite (.bind (gives_node (fun first => ?_) _ _) fun _ => .pure (by simp)) <|
      .ite ?_ .failure
    · exact .bind (below.simpleVariable _ _) fun _ => .pure (by simp)
    · refine .bind (yields_next _ _) fun _ => .bind (below.expression _ _) fun _ => ?_
      exact .bind (yields_expect _ _ _) fun _ => .pure (by simp)
    · refine .look looks_isTargetList fun _ => ?_
      exact .bind (below.bracketed _ _ _) fun _ => .pure (by simp)
  · extract_lets word
    refine .look .peekSecond fun _ => .ite ?_ <| .ite ?_ <| .ite .failure ?_
    · refine .bind (gives_node (fun first => ?_) _ _) fun _ => .pure (by simp)
      refine .bind (yields_next _ _) fun _ => .bind (yields_next _ _) fun _ => ?_
      exact (below.arrayItems _ _ _ _).weaken (by simp)
    · exact .bind (below.matching _ _) fun _ => .pure (by simp)
    · exact .bind (gives_leaf _ _) fun _ => .pure (by simp)
  · exact .failure

theorem gives_bracketed (isTarget : Bool) : Gives bound (bracketed (fuel + 1) isTarget) :=
  gives_node fun _ => .bind (yields_expect _ _ _) fun _ =>
    (below.arrayItems _ _ _ _).weaken (by simp)

theorem gives_arrayItem (isTarget : Bool) : Gives bound (arrayItem (fuel + 1) isTarget) :=
  fun _ _ => .look (.atSign _) fun _ => .ite (below.bracketed _ _ _) (below.expression _ _)

theorem yields_arrayItems (close : String) (isTarget : Bool) :
    Yields bound id (arrayItems (fuel + 1) close isTarget) := by
  intro first t
  refine .bind (yields_listUpTo (?_ : Allows bound id _) _ _) fun found => .pure (by simp)
  refine fun first t => .look (.atSign _) fun _ => .ite (.ite (.pure (by simp)) .failure) ?_
  refine .bind ((accepts_accept _).allows _ _) fun _ => ?_
  refine .bind ((accepts_accept _).allows _ _) fun _ => ?_
  refine .bind (below.arrayItem _ _ _) fun _ => .choose (accepts_accept _) ?_ (.pure (by simp))
  refine .bind ((accepts_accept _).allows _ _) fun _ => ?_
  exact .bind (below.arrayItem _ _ _) fun _ => .pure (by simp)

theorem gives_template : Gives bound (template (fuel + 1)) := by
  have looks : Looks (do return (← peek) == some .templateEnd) := .bind .peek fun _ => .pure _
  refine gives_node fun first => .bind (yields_next _ _) fun _ => ?_
  refine .bind (allows_readUntil looks (?_ : Allows bound (fun n => [n]) _) _ _) fun parts => ?_
  · refine fun first t => .bind (yields_next _ _) fun token => .ite ?_ .failure
    refine .bind (below.expression _ _) fun _ => .bind (yields_expect _ _ _) fun _ => ?_
    exact .pure (by simp)
  · exact .bind (yields_next _ _) fun _ => .pure (by simp)

theorem gives_matching : Gives bound (matching (fuel + 1)) := by
  refine gives_node fun first => .bind (yields_expectWord _ _ _) fun _ => ?_
  refine .bind (yields_expect _ _ _) fun _ => .bind (below.expression _ _) fun subject => ?_
  refine .bind (yields_expect _ _ _) fun _ => .bind (yields_expect _ _ _) fun _ => ?_
  refine .bind (yields_listUpTo (?_ : Allows bound id _) _ _) fun arms => .pure (by simp)
  intro first t
  refine .look .peek fun _ => .look .peekSecond fun _ => .look .peekSecond fun _ => ?_
  extract_lets isDefault rest
  have done : ∀ conditions, Leads bound first ⟨true, t.nodes ++ conditions⟩ (rest conditions)
      fun nodes => ⟨t.moved, t.nodes ++ nodes⟩ := by
    refine fun conditions => .bind (yields_expect _ _ _) fun _ => ?_
    exact .bind (below.expression _ _) fun _ => .pure (by simp)
  refine .ite ?_ ?_
  · refine .bind (yields_next _ _) fun _ => .bind ((accepts_accept _).allows _ _) fun _ => ?_
    exact .pure_bind ((done []).before (by simp))
  · refine .bind (below.expression _ _) fun _ => ?_
    refine .bind (allows_readUntil (.atSign _) (?_ : Allows bound id _) _ _) fun more => ?_
    · refine fun first t => .bind (yields_expect _ _ _) fun _ => .look (.atSign _) fun _ => ?_
      exact .ite (.pure (by simp)) (.bind (below.expression _ _) fun _ => .pure (by simp))
    · exact .pure_bind ((done _).before (by simp))

theorem gives_closure : Gives bound (closure (fuel + 1)) := by
  refine gives_node fun first => .bind ((accepts_acceptWord _).allows _ _) fun _ => ?_
  refine .choose (accepts_acceptWord _) ?_ ?_
  · refine .bind ((accepts_accept _).allows _ _) fun _ => ?_
    refine .bind (below.parameterList _ _) fun parameters => ?_
    refine .bind (below.resultType _ _) fun result => .bind (yields_expect _ _ _) fun _ => ?_
    exact .bind (below.expression _ _) fun _ => .pure (by simp)
  · refine .bind (yields_expectWord _ _ _) fun _ => ?_
    refine .bind ((accepts_accept _).allows _ _) fun _ => ?_
    refine .bind (below.parameterList _ _) fun parameters => ?_
    refine .bind ((accepts_acceptWord _).allows _ _) fun _ => ?_
    extract_lets rest
    have done : ∀ u, Leads bound first ⟨true, [parameters]⟩ (rest u)
        fun nodes => ⟨true, nodes⟩ := by
      refine fun _ => .bind (below.resultType _ _) fun result => ?_
      exact .bind (below.block _ _) fun _ => .pure (by simp)
    refine .ite ?_ ((done ()).before (by simp))
    refine .bind (yields_expect _ _ _) fun _ => ?_
    refine .bind (yields_listUpTo (?_ : Allows bound (fun _ => []) _) _ _) fun _ => ?_
    · refine fun first t => .bind ((accepts_accept _).allows _ _) fun _ => ?_
      exact (gives_plainVariable _ _).weaken (by simp)
    · exact (done ()).before (by simp)

theorem gives_creation : Gives bound (creation (fuel + 1)) := by
  refine gives_node fun first => .bind (yields_expectWord _ _ _) fun _ => ?_
  refine .bind (below.attributes _ _) fun attributes => ?_
  refine .look (.atWord _) fun _ => .look (.atAnyWord _) fun _ => .look .peekSecond fun _ => ?_
  refine .ite (.bind (below.anonymousClass _ _) fun _ => .pure (by simp)) ?_
  refine .look (.atSign _) fun _ => .ite ?_ (.look .peek fun _ => ?_)
  · refine .bind (gives_node (fun first => ?_) _ _) fun target => ?_
    · refine .bind (yields_next _ _) fun _ => .bind (below.expression _ _) fun _ => ?_
      exact .bind (yields_expect _ _ _) fun _ => .pure (by simp)
    · refine .look (.atSign _) fun _ => .ite ?_ (.pure (by simp))
      exact .bind (below.arguments _ _) fun _ => .pure (by simp)
  · extract_lets rest
    have done : ∀ n, Leads bound first ⟨true, attributes ++ [n]⟩ (rest n)
        fun nodes => ⟨true, nodes⟩ := by
      refine fun n => .look .remaining fun rounds => ?_
      refine .bind (below.creationTarget _ _ _ _) fun target => .look (.atSign _) fun _ => ?_
      exact .ite (.bind (below.arguments _ _) fun _ => .pure (by simp)) (.pure (by simp))
    refine .ite (.look .peekWord fun _ => .ite .failure_bind ?_) ?_
    · exact .bind (gives_leaf _ _) fun _ => (done _).before (by simp)
    · exact .bind (below.simpleVariable _ _) fun _ => (done _).before (by simp)

theorem leads_creationTarget (rounds : Nat) (object : Node) (first : Nat) (front : List Node) :
    Leads bound first ⟨true, front ++ [object]⟩ (creationTarget (fuel + 1) rounds object)
      fun found => ⟨true, front ++ [found]⟩ := by
  cases rounds with
  | zero => exact .pure (by simp)
  | succ rounds =>
    have more := fun found => below.creationTarget rounds found first front
    refine .look .peek fun kind => ?_
    split
    · refine .ite ?_ <| .ite ?_ <| .ite ?_ (.pure (by simp))
      · refine .bind (yields_next _ _) fun _ => .bind (below.memberName _ _) fun name => ?_
        refine .before (u := ⟨true, front ++ [object, name]⟩) ?_ (by simp)
        exact .bind (.nodeFrom (.pure (by simp))) more
      · refine .bind (yields_next _ _) fun _ => .bind (below.simpleVariable _ _) fun name => ?_
        refine .before (u := ⟨true, front ++ [object, name]⟩) ?_ (by simp)
        exact .bind (.nodeFrom (.pure (by simp))) more
      · refine .bind (.nodeFrom (.bind (yields_next _ _) fun _ => ?_)) more
        refine .bind (below.expression _ _) fun _ => .bind (yields_expect _ _ _) fun _ => ?_
        exact .pure (by simp)
    · exact .pure (by simp)

theorem gives_anonymousClass : Gives bound (anonymousClass (fuel + 1)) := by
  refine gives_node fun first => ?_
  refine .bind (allows_readUntil (.not (.atAnyWord _)) yields_next.allows _ _) fun _ => ?_
  refine .bind (yields_expectWord _ _ _) fun _ => .look (.atSign _) fun _ => ?_
  extract_lets rest
  have done : ∀ given, Leads bound first ⟨true, given⟩ (rest given) fun nodes => ⟨true, nodes⟩ := by
    refine fun given => .bind (allows_classParents _ _) fun parents => ?_
    exact .bind (below.classBody _ _ _) fun _ => .pure (by simp)
  refine .ite ?_ (.pure_bind ((done []).before (by simp)))
  exact .bind (below.arguments _ _) fun _ => .pure_bind ((done _).before (by simp))

theorem gives_parameterList : Gives bound (parameterList (fuel + 1)) := by
  intro first t
  refine .bind (gives_node (fun first => ?_) _ _) fun found => .pure (by simp)
  refine .bind (yields_expect _ _ _) fun _ => ?_
  exact (yields_listUpTo below.parameter.allows _ _).weaken (by simp)

theorem gives_parameter : Gives bound (parameter (fuel + 1)) := by
  refine gives_node fun first => .bind (below.attributes _ _) fun attributes => ?_
  refine .bind (allows_modifiers _ _) fun _ => .look .peek fun kind => ?_
  extract_lets rest
  have done : ∀ moved type, Leads bound first ⟨moved, attributes ++ type⟩ (rest type)
      fun nodes => ⟨true, nodes⟩ := by
    refine fun moved type => .bind ((accepts_accept _).allows _ _) fun _ => ?_
    refine .bind ((accepts_accept _).allows _ _) fun _ => ?_
    refine .bind (gives_plainVariable _ _) fun name => ?_
    refine .bind ((accepts_accept _).allows _ _) fun _ => ?_
    extract_lets rest
    have done : ∀ initial, Leads bound first ⟨true, attributes ++ type ++ name :: initial⟩
        (rest initial) fun nodes => ⟨true, nodes⟩ := by
      refine fun initial => .look (.atSign _) fun _ => .ite ?_ (.pure_bind (.pure (by simp)))
      exact .bind (below.hookList _ _) fun _ => .pure_bind (.pure (by simp))
    refine .ite ?_ (.pure_bind ((done []).before (by simp)))
    exact .bind (below.expression _ _) fun _ => .pure_bind ((done _).before (by simp))
  refine .ite (.pure_bind ((done false []).before (by simp))) ?_
  exact .bind (gives_typeOf _ _ _) fun _ => .pure_bind ((done true _).before (by simp))

theorem gives_classBody (hasCases : Bool) : Gives bound (classBody (fuel + 1) hasCases) := by
  refine gives_node fun first => .bind (yields_expect _ _ _) fun _ => ?_
  refine .bind (allows_readUntil (.atSign _) (below.member hasCases).allows _ _) fun _ => ?_
  exact .bind (yields_expect _ _ _) fun _ => .pure (by simp)

theorem gives_member (hasCases : Bool) : Gives bound (member (fuel + 1) hasCases) := by
  refine gives_here fun start => .bind (below.attributes _ _) fun attributes => ?_
  refine .look (.atWord _) fun _ => .ite (.nodeAt start ?_) <| .look (.atWord _) fun _ =>
    .ite (.nodeAt start ?_) <| .bind (allows_modifiers _ _) fun found => .look (.atWord _) fun _ =>
    .ite (.nodeAt start ?_) <| .look (.atWord _) fun _ => .ite (.nodeAt start ?_) <|
    .ite .failure (.nodeAt start ?_)
  · exact (below.traitUse _ _).weaken (by simp)
  · refine .bind (yields_next _ _) fun _ => .bind (gives_plainName _ _) fun name => ?_
    refine .bind ((accepts_accept _).allows _ _) fun _ => ?_
    extract_lets rest
    have done : ∀ given, Leads bound start.line ⟨true, attributes ++ name :: given⟩ (rest given)
        fun nodes => ⟨true, nodes⟩ :=
      fun given => .bind (allows_semicolon _ _) fun _ => .pure (by simp)
    refine .ite ?_ (.pure_bind ((done []).before (by simp)))
    exact .bind (below.expression _ _) fun _ => .pure_bind ((done _).before (by simp))
  · exact .bind (below.signature _ _) fun _ => .pure (by simp)
  · exact .bind (below.constants _ _) fun _ => .pure (by simp)
  · refine .look .peek fun _ => ?_
    extract_lets rest
    have done : ∀ moved type, Leads bound start.line ⟨moved, attributes ++ type⟩ (rest type)
        fun nodes => ⟨true, nodes⟩ := by
      intro moved type
      refine .bind (yields_sepBy1 (gives_node fun first => ?_) _ _) fun elements => ?_
      · refine .bind (gives_plainVariable _ _) fun name => ?_
        refine .bind ((accepts_accept _).allows _ _) fun _ => ?_
        refine .ite ?_ (.pure_bind (.pure (by simp)))
        exact .bind (below.expression _ _) fun _ => .pure_bind (.pure (by simp))
      · refine .look (.atSign _) fun _ => .ite ?_ ?_
        · exact .bind (below.hookList _ _) fun _ => .pure_bind (.pure (by simp))
        · exact .bind (allows_semicolon _ _) fun _ => .pure_bind (.pure (by simp))
    refine .ite (.pure_bind ((done false []).before (by simp))) ?_
    exact .bind (gives_typeOf _ _ _) fun _ => .pure_bind ((done true _).before (by simp))

theorem yields_signature : Yields bound id (signature (fuel + 1)) := by
  intro first t
  refine .bind (yields_expectWord _ _ _) fun _ => .bind ((accepts_accept _).allows _ _) fun _ => ?_
  refine .bind (gives_plainName _ _) fun name => ?_
  refine .bind (below.parameterList _ _) fun parameters => ?_
  refine .bind (below.resultType _ _) fun result => .look (.atSign _) fun _ => .ite ?_ ?_
  · exact .bind (below.block _ _) fun _ => .pure_bind (.pure (by simp))
  · exact .bind (allows_semicolon _ _) fun _ => .pure_bind (.pure (by simp))

theorem yields_constants : Yields bound id (constants (fuel + 1)) := by
  intro first t
  refine .bind (yields_expectWord _ _ _) fun _ => .look .peekSecond fun _ => ?_
  extract_lets rest
  have done : ∀ type, Leads bound first ⟨true, t.nodes ++ type⟩ (rest type)
      fun nodes => ⟨true, t.nodes ++ nodes⟩ := by
    refine fun type => .bind (yields_sepBy1 (?_ : Yields bound id _) _ _) fun elements => ?_
    · refine fun first t => .bind (gives_plainName _ _) fun name => ?_
      refine .bind (yields_expect _ _ _) fun _ => ?_
      exact .bind (below.expression _ _) fun _ => .pure (by simp)
    · exact .bind (allows_semicolon _ _) fun _ => .pure (by simp)
  refine .ite (.pure_bind ((done []).before (by simp))) ?_
  exact .bind (gives_typeOf _ _ _) fun _ => .pure_bind ((done _).before (by simp))

theorem gives_hookList : Gives bound (hookList (fuel + 1)) := by
  refine gives_node fun first => .bind (yields_expect _ _ _) fun _ => ?_
  refine .bind (allows_readUntil (.atSign _) (?_ : Allows bound id _) _ _) fun hooks => ?_
  · refine fun first t => .bind (below.attributes _ _) fun attributes => ?_
    refine .bind (allows_modifiers _ _) fun _ => .bind ((accepts_accept _).allows _ _) fun _ => ?_
    refine .bind (gives_plainName _ _) fun name => .look (.atSign _) fun _ => ?_
    extract_lets rest
    have done : ∀ parameters, Leads bound first ⟨true, t.nodes ++ attributes ++ name :: parameters⟩
        (rest parameters) fun nodes => ⟨t.moved, t.nodes ++ nodes⟩ := by
      refine fun parameters => .look (.atSign _) fun _ => ?_
      refine .bind ((accepts_accept _).allows _ _) fun _ => .ite ?_ (.ite ?_ ?_)
      · exact .bind (below.block _ _) fun _ => .pure_bind (.pure (by simp))
      · refine .bind (below.expression _ _) fun _ => .bind (allows_semicolon _ _) fun _ => ?_
        exact .pure_bind (.pure (by simp))
      · exact .bind (allows_semicolon _ _) fun _ => .pure_bind (.pure (by simp))
    refine .ite ?_ (.pure_bind ((done []).before (by simp)))
    exact .bind (below.parameterList _ _) fun _ => .pure_bind ((done _).before (by simp))
  · exact .bind (yields_expect _ _ _) fun _ => .pure (by simp)

theorem gives_block : Gives bound (block (fuel + 1)) := by
  refine gives_node fun first => .bind (yields_expect _ _ _) fun _ => ?_
  refine .bind (allows_readUntil (.atSign _) below.statement.allows _ _) fun inside => ?_
  exact .bind (yields_expect _ _ _) fun _ => .pure (by simp)

theorem allows_statementsUpTo (words : List Text) :
    Allows bound id (statementsUpTo (fuel + 1) words) :=
  fun _ _ => (allows_readUntil (.atAnyWord _) below.statement.allows _ _).weaken (by simp)

theorem allows_loopBody (endWord : Text) : Allows bound id (loopBody (fuel + 1) endWord) := by
  intro first t
  refine .choose (accepts_accept _) ?_ ?_
  · refine .bind (below.statementsUpTo _ _ _) fun inside => ?_
    refine .bind (yields_expectWord _ _ _) fun _ => .bind (allows_semicolon _ _) fun _ => ?_
    exact .pure (by simp)
  · exact .bind (below.statement _ _) fun _ => .pure (by simp)

theorem gives_condition : Gives bound (condition (fuel + 1)) := by
  intro first t
  refine .bind (yields_expect _ _ _) fun _ => .bind (below.expression _ _) fun inside => ?_
  exact .bind (yields_expect _ _ _) fun _ => .pure (by simp)

theorem yields_conditional : Yields bound id (conditional (fuel + 1)) := by
  intro first t
  refine .bind (yields_expectWord _ _ _) fun _ => .bind (below.condition _ _) fun test => ?_
  refine .choose (accepts_accept _) ?_ ?_
  · extract_lets stops
    refine .bind (below.statementsUpTo _ _ _) fun main => ?_
    refine .bind (allows_readUntil (.not (.atWord _)) (?_ : Allows bound id _) _ _) fun others => ?_
    · refine fun first t => .bind (yields_next _ _) fun _ => .bind (below.condition _ _) fun _ => ?_
      refine .bind (yields_expect _ _ _) fun _ => ?_
      exact .bind (below.statementsUpTo _ _ _) fun _ => .pure (by simp)
    · refine .bind ((accepts_acceptWord _).allows _ _) fun _ => ?_
      extract_lets rest
      have done : ∀ last, Leads bound first
          ⟨true, t.nodes ++ (test :: main ++ others.flatten ++ last)⟩ (rest last)
          fun nodes => ⟨true, t.nodes ++ nodes⟩ := by
        refine fun last => .bind (yields_expectWord _ _ _) fun _ => ?_
        exact .bind (allows_semicolon _ _) fun _ => .pure (by simp)
      refine .ite ?_ (.pure_bind ((done []).before (by simp)))
      refine .bind (yields_expect _ _ _) fun _ => ?_
      exact .bind (below.statementsUpTo _ _ _) fun _ => (done _).before (by simp)
  · refine .bind (below.statement _ _) fun main => ?_
    refine .bind (allows_readUntil (.not (.atWord _)) (?_ : Allows bound id _) _ _) fun others => ?_
    · refine fun first t => .bind (yields_next _ _) fun _ => .bind (below.condition _ _) fun _ => ?_
      exact .bind (below.statement _ _) fun _ => .pure (by simp)
    · refine .bind ((accepts_acceptWord _).allows _ _) fun _ => ?_
      refine .ite ?_ (.pure_bind (.pure (by simp)))
      exact .bind (below.statement _ _) fun _ => .pure_bind (.pure (by simp))

theorem allows_switchCases (atEnd : Reader Bool) (looks : Looks atEnd) :
    Allows bound id (switchCases (fuel + 1) atEnd) := by
  intro first t
  refine .bind (allows_readUntil looks (?_ : Allows bound id _) _ _) fun found => .pure (by simp)
  refine fun first t => .bind ((accepts_acceptWord _).allows _ _) fun _ => ?_
  extract_lets stop rest
  have stops : Looks stop := .bind (.atAnyWord _) fun _ => .bind looks fun _ => .pure _
  have done : ∀ test, Leads bound first ⟨true, t.nodes ++ test⟩ (rest test)
      fun nodes => ⟨t.moved, t.nodes ++ nodes⟩ := by
    refine fun test => .bind ((accepts_accept _).allows _ _) fun _ => ?_
    extract_lets rest
    have done : ∀ u, Leads bound first ⟨true, t.nodes ++ test⟩ (rest u)
        fun nodes => ⟨t.moved, t.nodes ++ nodes⟩ := by
      refine fun _ => .bind (allows_readUntil stops below.statement.allows _ _) fun inside => ?_
      exact .pure (by simp)
    refine .ite ?_ ((done ()).before (by simp))
    exact .bind (yields_expect _ _ _) fun _ => (done ()).before (by simp)
  refine .ite ?_ ?_
  · exact .bind (below.expression _ _) fun _ => .pure_bind ((done _).before (by simp))
  · exact .bind (yields_expectWord _ _ _) fun _ => .pure_bind ((done []).before (by simp))

theorem yields_guarded : Yields bound id (guarded (fuel + 1)) := by
  intro first t
  refine .bind (yields_expectWord _ _ _) fun _ => .bind (below.block _ _) fun main => ?_
  refine .bind (allows_readUntil (.not (.atAnyWord _)) (?_ : Allows bound id _) _ _)
    fun handlers => ?_
  · refine fun first t => .choose (accepts_acceptWord _) ?_ ?_
    · exact .bind (below.block _ _) fun _ => .pure (by simp)
    refine .bind (yields_expectWord _ _ _) fun _ => .bind (yields_expect _ _ _) fun _ => ?_
    refine .bind (gives_typeOf _ _ _) fun type => .look .peek fun _ => ?_
    extract_lets rest
    have done : ∀ caught, Leads bound first ⟨true, t.nodes ++ type :: caught⟩ (rest caught)
        fun nodes => ⟨t.moved, t.nodes ++ nodes⟩ := by
      refine fun caught => .bind (yields_expect _ _ _) fun _ => ?_
      exact .bind (below.block _ _) fun _ => .pure (by simp)
    refine .ite ?_ (.pure_bind ((done []).before (by simp)))
    exact .bind (gives_plainVariable _ _) fun _ => .pure_bind ((done _).before (by simp))
  · exact .ite .failure_bind (.pure (by simp))

theorem yields_classDeclaration :
    Yields bound (fun found => found.2) (classDeclaration (fuel + 1)) := by
  intro first t
  refine .bind (allows_readUntil (.not (.atAnyWord _)) yields_next.allows _ _) fun _ => ?_
  extract_lets named
  have gives : Gives bound named :=
    fun _ _ => .bind (gives_plainName _ _) fun _ => .pure (by simp)
  refine .choose (accepts_acceptWord _) ?_ <| .choose (accepts_acceptWord _) ?_ <|
    .choose (accepts_acceptWord _) ?_ ?_
  · refine .bind (gives _ _) fun name => .bind (allows_classParents _ _) fun parents => ?_
    exact .bind (below.classBody _ _ _) fun _ => .pure (by simp)
  · refine .bind (gives _ _) fun name => .bind ((accepts_acceptWord _).allows _ _) fun _ => ?_
    extract_lets rest
    have done : ∀ parents, Leads bound first ⟨true, t.nodes ++ name :: parents⟩ (rest parents)
        fun found => ⟨true, t.nodes ++ found.2⟩ :=
      fun parents => .bind (below.classBody _ _ _) fun _ => .pure (by simp)
    refine .ite ?_ (.pure_bind ((done []).before (by simp)))
    exact .bind (yields_nameList _ _) fun _ => (done _).before (by simp)
  · refine .bind (gives _ _) fun name => ?_
    exact .bind (below.classBody _ _ _) fun _ => .pure (by simp)
  · refine .bind (yields_expectWord _ _ _) fun _ => .bind (gives _ _) fun name => ?_
    refine .bind ((accepts_accept _).allows _ _) fun _ => ?_
    extract_lets rest
    have done : ∀ backing, Leads bound first ⟨true, t.nodes ++ name :: backing⟩ (rest backing)
        fun found => ⟨true, t.nodes ++ found.2⟩ := by
      refine fun backing => .bind ((accepts_acceptWord _).allows _ _) fun _ => ?_
      extract_lets rest
      have done : ∀ parents, Leads bound first ⟨true, t.nodes ++ (name :: backing ++ parents)⟩
          (rest parents) fun found => ⟨true, t.nodes ++ found.2⟩ :=
        fun parents => .bind (below.classBody _ _ _) fun _ => .pure (by simp)
      refine .ite ?_ (.pure_bind ((done []).before (by simp)))
      exact .bind (yields_nameList _ _) fun _ => (done _).before (by simp)
    refine .ite ?_ (.pure_bind ((done []).before (by simp)))
    exact .bind (gives_typeOf _ _ _) fun _ => .pure_bind ((done _).before (by simp))

theorem leads_keywordStatement? (word : Text) (first : Nat) (t : Trace) :
    Leads bound first t (keywordStatement? (fuel + 1) word) fun found =>
      found.elim t fun nodes => ⟨true, t.nodes ++ nodes⟩ := by
  have expression := below.expression
  have condition := below.condition
  have body := below.loopBody
  have cases := below.switchCases
  refine .look .peekSecond fun second => .ite (.found below.conditional) <|
    .ite (.found (yields_whileLoop condition (body _))) <|
    .ite (.found (yields_doLoop below.statement condition)) <|
    .ite (.found (yields_forLoop expression (body _))) <|
    .ite (.found (yields_foreachLoop expression (below.arrayItem _) (body _))) <|
    .ite (.found (yields_choice condition (cases _ (.atWord _)) (cases _ (.atSign _)))) <|
    .ite (.found (yields_leave expression)) <|
    .ite (.found (yields_listed_nodes expression)) <|
    .ite (.found (yields_removal expression)) <|
    .ite (.found (yields_listed_nodes below.simpleVariable)) <|
    .ite (.found (yields_statics expression)) <| .ite (.found yields_jump) <|
    .ite (.found below.guarded) <| .ite (.found (yields_settings expression (body _))) <|
    .ite (.found below.constants) <| .ite (.found below.importNames) (.pure (by simp))

theorem leads_expressionStatement (start : Start) (moved : Bool) (front : List Node) :
    Leads bound start.line ⟨moved, front⟩ (expressionStatement (fuel + 1) start front)
      fun n => ⟨true, [n]⟩ := by
  refine .nodeAt start (.bind (below.expression _ _) fun inside => ?_)
  exact .bind (allows_semicolon _ _) fun _ => .pure (by simp)

theorem gives_statement : Gives bound (statement (fuel + 1)) := by
  refine gives_here fun start => .look (.atSign _) fun _ => .ite ?_ ?_
  · exact (below.block _ _).weaken (by simp)
  refine .choose (accepts_accept _) (.nodeAt start (.pure (by simp))) ?_
  refine .bind (below.attributes _ _) fun attributes => .look .peekSecond fun _ => ?_
  refine .look .peekThird fun _ => .look .peekWord fun word => ?_
  split
  · exact below.expressionStatement _ _ _
  refine .ite (.nodeAt start ?result) <| .ite (.nodeAt start ?free) <| .ite ?classLike <|
    .ite (.nodeAt start ?space) <| .ite (.nodeAt start ?label) ?keyword
  case result => exact (yields_leave below.expression _ _).weaken (by simp)
  case free => exact .bind (below.signature _ _) fun _ => .pure (by simp)
  case classLike =>
    refine .bind (below.classDeclaration _ _) fun found => ?_
    obtain ⟨kind, inside⟩ := found
    exact .nodeAt start (.pure (by simp))
  case space =>
    refine .bind (yields_next _ _) fun _ => .look .peek fun _ => ?_
    extract_lets rest
    have done : ∀ name, Leads bound start.line ⟨true, attributes ++ name⟩ (rest name)
        fun nodes => ⟨true, nodes⟩ := by
      refine fun name => .look (.atSign _) fun _ => .ite ?_ ?_
      · exact .bind (below.block _ _) fun _ => .pure (by simp)
      · exact .ite .failure_bind (.bind (allows_semicolon _ _) fun _ => .pure (by simp))
    refine .ite ?_ (.pure_bind ((done []).before (by simp)))
    exact .bind (gives_qualifiedName _ _) fun _ => .pure_bind ((done _).before (by simp))
  case label =>
    exact .bind (yields_next _ _) fun _ => .bind (yields_next _ _) fun _ => .pure (by simp)
  case keyword =>
    refine .bind (below.keywordStatement? _ _ _) fun found => ?_
    split
    · exact .nodeAt start (.pure (by simp))
    · exact below.expressionStatement _ _ _

end

theorem orderly (bound fuel : Nat) : Orderly bound fuel := by
  induction fuel with
  | zero =>
    constructor
    case accesses | creationTarget | keywordStatement? | expressionStatement =>
      intros
      exact .failure
    all_goals
      intros
      exact fun _ _ => .failure
  | succ fuel below =>
    exact {
      attributes := allows_attributes below
      arguments := gives_arguments below
      expression := gives_expression below
      operand := gives_operand below
      yielding := gives_yielding below
      assignment := gives_assignment below
      value := yields_value below
      accesses := leads_accesses below
      memberName := gives_memberName below
      simpleVariable := gives_simpleVariable below
      primary := yields_primary below
      bracketed := gives_bracketed below
      arrayItem := gives_arrayItem below
      arrayItems := yields_arrayItems below
      template := gives_template below
      matching := gives_matching below
      closure := gives_closure below
      creation := gives_creation below
      creationTarget := leads_creationTarget below
      anonymousClass := gives_anonymousClass below
      resultType := allows_resultType fuel
      parameterList := gives_parameterList below
      parameter := gives_parameter below
      classBody := gives_classBody below
      member := gives_member below
      signature := yields_signature below
      constants := yields_constants below
      traitUse := yields_traitUse fuel
      hookList := gives_hookList below
      block := gives_block below
      statementsUpTo := allows_statementsUpTo below
      loopBody := allows_loopBody below
      condition := gives_condition below
      conditional := yields_conditional below
      switchCases := allows_switchCases below
      guarded := yields_guarded below
      importNames := yields_importNames fuel
      classDeclaration := yields_classDeclaration below
      keywordStatement? := leads_keywordStatement? below
      statement := gives_statement below
      expressionStatement := leads_expressionStatement below }

/-- A file has no statements only if there is nothing to read. -/
theorem nested_program {fuel : Nat} {tokens : List Token} {root : Node} {s : ReaderState}
    (spread : Spread bound 0 tokens) (read : program fuel ⟨tokens, 0, 0⟩ = some (root, s)) :
    root.Nested ∧ root.span.lastLine ≤ bound := by
  have looks : Looks (do return (← peek).isNone) := .bind .peek fun _ => .pure _
  obtain ⟨start, found, line⟩ := here_line ⟨tokens, 0, 0⟩
  obtain ⟨place, _, same, read⟩ := bind_eq_some_iff.mp read
  obtain ⟨rfl, rfl⟩ : start = place ∧ _ := by simpa [found] using same
  obtain ⟨nodes, _, inside, read⟩ := bind_eq_some_iff.mp read
  cases read
  have fresh : Trace.start.Holds bound start.line ⟨tokens, 0, 0⟩ :=
    ⟨spread, line.le, by simp, laid_nil⟩
  obtain ⟨ready, ahead, _, laid⟩ :=
    allows_readUntil looks (orderly bound fuel).statement.allows _ _ _ _ _ fresh inside
  have forward : start.line ≤ s.lastLine := by
    cases nodes with
    | cons n rest => exact laid.forward (by simp)
    | nil =>
      obtain ⟨rfl, stopped⟩ := readUntil_eq_nil looks inside
      obtain ⟨kind, _, peeked, ends⟩ := bind_eq_some_iff.mp stopped
      cases peeked
      have none := (Prod.mk.inj (Option.some.inj ends)).1
      have empty : skipSections tokens = [] := by simpa using none
      rw [line, ReaderState.nextLine, empty]
  exact ⟨nested_iff.mpr ⟨forward, by simpa using laid⟩, ready.le⟩

end DocRepair.Php.Grammar

namespace DocRepair.Php

/-- The tree of a source is nested and stands on its lines. -/
theorem nested_tree? {source : Text} {root : Node} (read : tree? source = some root) :
    root.Nested ∧ root.span.lastLine ≤ source.count ('\n' : CodePoint) := by
  obtain ⟨tokens, found, read⟩ := Option.bind_eq_some_iff.mp read
  obtain ⟨⟨_, s⟩, done, rfl⟩ := Option.map_eq_some_iff.mp read
  exact Grammar.nested_program (spread_tokens? found) done

end DocRepair.Php
