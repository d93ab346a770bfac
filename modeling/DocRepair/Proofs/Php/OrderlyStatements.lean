import DocRepair.Php.KeywordStatements
import DocRepair.Proofs.Php.OrderlyReading

/-!
A statement behind a keyword reads nodes that lie one behind the other, if the readers of its parts
do.

Where a reader branches, what comes behind the branches is treated once, under the name `done`.
-/

namespace DocRepair.Php.Grammar

open Node Reader

variable {bound : Nat} {expression condition statement target : Reader Node}
  {body : Reader (List Node)}

theorem yields_leave (values : Gives bound expression) : Yields bound id (leave expression) := by
  refine fun first t => .bind (yields_next _ _) fun _ => .look .atStatementEnd fun _ => ?_
  extract_lets rest
  have done : ∀ value, Leads bound first ⟨true, t.nodes ++ value⟩ (rest value)
      fun nodes => ⟨true, t.nodes ++ nodes⟩ :=
    fun value => .bind (allows_semicolon _ _) fun _ => .pure (by simp)
  refine .ite (.pure_bind ((done []).before (by simp))) ?_
  exact .bind (values _ _) fun _ => .pure_bind ((done _).before (by simp))

theorem yields_listed {α : Type} {nodes : α → List Node} {item : Reader α}
    (each : Yields bound nodes item) :
    Yields bound (fun items => items.flatMap nodes) (listed item) := by
  refine fun first t => .bind (yields_next _ _) fun _ => .bind (yields_sepBy1 each _ _) fun _ => ?_
  exact .bind (allows_semicolon _ _) fun _ => .pure (by simp)

theorem yields_listed_nodes (each : Gives bound expression) :
    Yields bound id (listed expression) :=
  fun first t => (yields_listed each first t).weaken (by simp)

theorem yields_whileLoop (tests : Gives bound condition) (inside : Allows bound id body) :
    Yields bound id (whileLoop condition body) := by
  refine fun first t => .bind (yields_next _ _) fun _ => .bind (tests _ _) fun _ => ?_
  exact .bind (inside _ _) fun _ => .pure (by simp)

theorem yields_doLoop (inside : Gives bound statement) (tests : Gives bound condition) :
    Yields bound id (doLoop statement condition) := by
  refine fun first t => .bind (yields_next _ _) fun _ => .bind (inside _ _) fun _ => ?_
  refine .bind (yields_expectWord _ _ _) fun _ => .bind (tests _ _) fun _ => ?_
  exact .bind (allows_semicolon _ _) fun _ => .pure (by simp)

theorem yields_loopExpressions (values : Gives bound expression) (close : String) :
    Yields bound id (loopExpressions expression close) := by
  refine fun first t => .look (.atSign _) fun _ => ?_
  extract_lets rest
  have done : ∀ found u, u.nodes = t.nodes ++ found → Leads bound first u (rest found)
      fun nodes => ⟨true, t.nodes ++ nodes⟩ := by
    intro found u same
    exact .bind (yields_expect _ _ _) fun _ => .pure (by simp [same])
  refine .ite (.pure_bind (done [] _ (by simp))) ?_
  exact .bind (yields_sepBy1 values _ _) fun _ => done _ _ (by simp)

theorem yields_forLoop (values : Gives bound expression) (inside : Allows bound id body) :
    Yields bound id (forLoop expression body) := by
  have each := yields_loopExpressions values
  refine fun first t => .bind (yields_next _ _) fun _ => .bind (yields_expect _ _ _) fun _ => ?_
  refine .bind (each _ _ _) fun _ => .bind (each _ _ _) fun _ => .bind (each _ _ _) fun _ => ?_
  exact .bind (inside _ _) fun _ => .pure (by simp)

theorem yields_foreachLoop (values : Gives bound expression) (targets : Gives bound target)
    (inside : Allows bound id body) : Yields bound id (foreachLoop expression target body) := by
  refine fun first t => .bind (yields_next _ _) fun _ => .bind (yields_expect _ _ _) fun _ => ?_
  refine .bind (values _ _) fun subject => .bind (yields_expectWord _ _ _) fun _ => ?_
  refine .bind ((accepts_accept _).allows _ _) fun _ => .bind (targets _ _) fun item => ?_
  refine .bind ((accepts_accept _).allows _ _) fun _ => ?_
  extract_lets rest
  have done : ∀ other, Leads bound first ⟨true, t.nodes ++ subject :: item :: other⟩ (rest other)
      fun nodes => ⟨true, t.nodes ++ nodes⟩ := by
    refine fun other => .bind (yields_expect _ _ _) fun _ => ?_
    exact .bind (inside _ _) fun _ => .pure (by simp)
  refine .ite ?_ (.pure_bind ((done []).before (by simp)))
  refine .bind ((accepts_accept _).allows _ _) fun _ => ?_
  exact .bind (targets _ _) fun _ => .pure_bind ((done _).before (by simp))

theorem yields_choice {upToWord upToBrace : Reader (List Node)} (tests : Gives bound condition)
    (behindColon : Allows bound id upToWord) (braced : Allows bound id upToBrace) :
    Yields bound id (choice condition upToWord upToBrace) := by
  refine fun first t => .bind (yields_next _ _) fun _ => .bind (tests _ _) fun _ => ?_
  refine .choose (accepts_accept _) ?_ ?_
  · refine .bind (behindColon _ _) fun _ => .bind (yields_expectWord _ _ _) fun _ => ?_
    exact .bind (allows_semicolon _ _) fun _ => .pure (by simp)
  · refine .bind (yields_expect _ _ _) fun _ => .bind (braced _ _) fun _ => ?_
    exact .bind (yields_expect _ _ _) fun _ => .pure (by simp)

theorem yields_removal (values : Gives bound expression) :
    Yields bound id (removal expression) := by
  refine fun first t => .bind (yields_next _ _) fun _ => .bind (yields_expect _ _ _) fun _ => ?_
  refine .bind (yields_listUpTo values.allows _ _) fun _ => ?_
  exact .bind (allows_semicolon _ _) fun _ => .pure (by simp)

theorem yields_staticVariable (values : Gives bound expression) :
    Yields bound id (staticVariable expression) := by
  refine fun first t => .bind (gives_plainVariable _ _) fun _ => ?_
  refine .bind ((accepts_accept _).allows _ _) fun _ => .ite ?_ (.pure_bind (.pure (by simp)))
  exact .bind (values _ _) fun _ => .pure_bind (.pure (by simp))

theorem yields_statics (values : Gives bound expression) :
    Yields bound id (statics expression) :=
  fun _ _ => .bind (yields_listed (yields_staticVariable values) _ _) fun _ => .pure (by simp)

theorem yields_jump : Yields bound id jump := by
  refine fun first t => .bind (yields_next _ _) fun _ => .bind (gives_plainName _ _) fun _ => ?_
  exact .bind (allows_semicolon _ _) fun _ => .pure (by simp)

theorem yields_settings (values : Gives bound expression) (inside : Allows bound id body) :
    Yields bound id (settings expression body) := by
  refine fun first t => .bind (yields_next _ _) fun _ => .bind (yields_expect _ _ _) fun _ => ?_
  refine .look (.atSign _) fun _ => ?_
  extract_lets rest
  have done : ∀ u, Leads bound first ⟨true, t.nodes⟩ (rest u)
      fun nodes => ⟨true, t.nodes ++ nodes⟩ := by
    refine fun _ => .bind (yields_listUpTo (?_ : Allows bound (fun n => [n]) _) _ _)
      fun found => .look .atStatementEnd fun _ => .ite ?_ ?_
    · refine fun first t => .bind (gives_plainName _ _) fun _ => ?_
      exact .bind (yields_expect _ _ _) fun _ => (values _ _).weaken (by simp)
    · exact .bind (allows_semicolon _ _) fun _ => .pure (by simp)
    · exact .bind (inside _ _) fun _ => .pure (by simp)
  exact .ite .failure_bind ((done ()).before (by simp))

end DocRepair.Php.Grammar
