import DocRepair.Proofs.Fixer.Plan

/-!
The edit of the lines that a plan stands for, and where lines go under an edit.

Lines above an edit stay, the lines that it replaces are gone, and the lines below move down by as
many lines as the edit adds.
-/

namespace DocRepair

open Docblock Text

namespace LineEdit

def added (e : LineEdit) : Nat := e.inserted.length - (e.resume - e.cut)

/-- Where an edit moves the line at an index; a replaced line goes nowhere. -/
def target (e : LineEdit) (i : Nat) : Option Nat :=
  if i < e.cut then some i else if i < e.resume then none else some (i + e.added)

/-- An edit that replaces lines of a file by other lines, and no fewer of them. -/
structure Fits (e : LineEdit) (lines : List Text) : Prop where
  ordered : e.cut ≤ e.resume
  inside : e.resume ≤ lines.length
  covered : e.resume - e.cut ≤ e.inserted.length
  /-- No replaced line comes back in its place. -/
  fresh : ∀ i, e.cut ≤ i → i < e.resume → e.inserted[i - e.cut]? ≠ lines[i]?
  free : ∀ line ∈ e.inserted, ('\n' : CodePoint) ∉ line

variable {e : LineEdit} {lines : List Text} (fits : e.Fits lines)

include fits

theorem Fits.apply_of_target {i j : Nat} (moved : e.target i = some j) :
    (e.apply lines)[j]? = lines[i]? := by
  have ordered := fits.ordered
  have inside := fits.inside
  have covered := fits.covered
  have reach : (lines.take e.cut).length = e.cut := by
    rw [List.length_take]
    omega
  rw [apply, List.append_assoc]
  rw [target] at moved
  split at moved
  · rename_i above
    cases moved
    rw [List.getElem?_append_left (by omega), List.getElem?_take_of_lt above]
  · split at moved
    · cases moved
    · cases moved
      rw [added, List.getElem?_append_right (by omega), List.getElem?_append_right (by omega),
        List.getElem?_drop, reach]
      congr 1
      omega

theorem Fits.apply_of_replaced {i : Nat} (gone : e.target i = none) :
    (e.apply lines)[i]? ≠ lines[i]? := by
  have ordered := fits.ordered
  have inside := fits.inside
  have covered := fits.covered
  rw [target] at gone
  split at gone
  · cases gone
  · split at gone
    · rename_i below before
      have reach : (lines.take e.cut).length = e.cut := by
        rw [List.length_take]
        omega
      rw [apply, List.append_assoc, List.getElem?_append_right (by omega), reach,
        List.getElem?_append_left (by omega)]
      exact fits.fresh i (by omega) before
    · cases gone

theorem Fits.apply_free (free : ∀ line ∈ lines, ('\n' : CodePoint) ∉ line) :
    ∀ line ∈ e.apply lines, ('\n' : CodePoint) ∉ line := by
  intro line member
  rw [apply, List.mem_append, List.mem_append] at member
  rcases member with (above | inside) | below
  · exact free line (List.mem_of_mem_take above)
  · exact fits.free line inside
  · exact free line (List.mem_of_mem_drop below)

theorem Fits.length_le_apply : lines.length ≤ (e.apply lines).length := by
  have ordered := fits.ordered
  have inside := fits.inside
  have covered := fits.covered
  simp only [apply, List.length_append, List.length_take, List.length_drop]
  omega

theorem Fits.apply_ne_nil (nonempty : lines ≠ []) : e.apply lines ≠ [] := by
  have some := List.length_pos_iff.mpr nonempty
  have longer := fits.length_le_apply
  exact List.ne_nil_of_length_pos (by omega)

end LineEdit

/-! ### The edit of a plan -/

/-- The edit that puts an inline docblock above an index; a blank line there gives way to it. -/
def inlineEdit (lines : List Text) (index : Nat) (block : Text) : LineEdit :=
  ⟨if 0 < index ∧ ((lines[index - 1]?).getD []).strip = [] then index - 1 else index, index,
    [((lines[index]?).getD []).indent ++ block]⟩

def completingEdit (block : Location) (stop : Nat) : LineEdit :=
  let above := Text.lines (block.text.take stop)
  let below := Text.lines (block.text.drop stop)
  ⟨block.firstLine + (above.length - 1), block.firstLine + above.length,
    [above.getLastD [] ++ "<mixed>" ++ below.headD []]⟩

def Plan.edit (lines : List Text) : Plan → LineEdit
  | .tag a => a.editAt lines a.index
  | .complete _ _ _ block stop => completingEdit block stop
  | .inline line variableName =>
    inlineEdit lines (line - 1).toNat (Fixer.inlineBlock variableName)

theorem insertInline_eq (lines : List Text) (index : Nat) (block : Text) :
    Fixer.insertInline lines index block = (inlineEdit lines index block).apply lines := by
  cases index with
  | zero => simp [Fixer.insertInline, inlineEdit, LineEdit.apply]
  | succ above =>
    simp only [Fixer.insertInline, inlineEdit, Nat.zero_lt_succ, Nat.add_sub_cancel, true_and,
      List.isEmpty_iff]
    split <;> simp [LineEdit.apply, replaceLines]

theorem inlineEdit_fits {lines : List Text} {index : Nat} {name : Text}
    (inside : index < lines.length) (free : ∀ line ∈ lines, ('\n' : CodePoint) ∉ line)
    (named : ('\n' : CodePoint) ∉ name) :
    (inlineEdit lines index (Fixer.inlineBlock name)).Fits lines := by
  have start : ('\n' : CodePoint) ∉ ("/** @var mixed " : Text) := by simp
  have finish : ('\n' : CodePoint) ∉ (" */" : Text) := by simp
  have slash : ('/' : CodePoint) ∈ (" */" : Text) := by simp
  refine ⟨?_, Nat.le_of_lt inside, ?_, ?_, ?_⟩
  · simp only [inlineEdit]
    split <;> omega
  · simp only [inlineEdit, List.length_singleton]
    split <;> omega
  · intro i below before same
    simp only [inlineEdit] at below before same
    split at below
    · rename_i blank
      obtain rfl : i = index - 1 := by omega
      rw [if_pos blank, Nat.sub_self, List.getElem?_cons_zero] at same
      rw [← same, Option.getD_some] at blank
      refine absurd blank.2 (strip_ne_nil_of_mem (c := '/') ?_ (by decide))
      simp [Fixer.inlineBlock, slash]
    · omega
  · intro line member
    obtain rfl := List.mem_singleton.mp member
    have margin : ('\n' : CodePoint) ∉ ((lines[index]?).getD []).indent := by
      rw [List.getElem?_eq_getElem inside, Option.getD_some]
      exact fun found => free _ (List.getElem_mem inside) (List.takeWhile_subset _ found)
    simp [Fixer.inlineBlock, margin, start, finish, named]

/-- Text without line feeds between two texts goes into the line in which they meet. -/
theorem lines_between {s t middle last first : Text} {above below : List Text}
    (front : lines s = above ++ [last]) (back : lines t = first :: below)
    (free : ('\n' : CodePoint) ∉ middle) :
    lines (s ++ middle ++ t) = above ++ (last ++ middle ++ first) :: below := by
  have pieces : ∀ piece ∈ above ++ [last], ('\n' : CodePoint) ∉ piece := by
    rw [← front]
    exact fun piece member => not_mem_of_mem_splitAt member
  have meeting : lines (last ++ middle ++ t) = (last ++ middle ++ first) :: below := by
    obtain ⟨_, _, found, spread⟩ := lines_append_of_free (last ++ middle)
      (by simp [pieces last (by simp), free]) t
    rw [back] at found
    cases found
    exact spread
  have whole : s = unlines (above ++ [last]) := by
    rw [← front]
    exact (join_splitAt _ s).symm
  by_cases none : above = []
  · rw [none] at whole ⊢
    rw [whole]
    exact meeting
  · have split : s ++ middle ++ t =
        unlines above ++ ('\n' : CodePoint) :: (last ++ middle ++ t) := by
      rw [whole, unlines, join_append _ none (by simp)]
      simp [join, newline, unlines]
    rw [split]
    show splitAt ('\n' : CodePoint) _ = _
    rw [splitAt_append_cons]
    show lines (unlines above) ++ lines _ = _
    rw [meeting, lines_unlines_of_free none fun piece member => pieces piece (by simp [member])]

theorem replacingOne_fits (above below : List Text) {old new : Text}
    (changed : new ≠ old) (free : ('\n' : CodePoint) ∉ new) :
    (LineEdit.mk above.length (above.length + 1) [new]).Fits (above ++ old :: below) ∧
      (LineEdit.mk above.length (above.length + 1) [new]).apply (above ++ old :: below) =
        above ++ new :: below := by
  refine ⟨⟨by simp, by simp, by simp, ?_, by simpa using free⟩, by simp [LineEdit.apply]⟩
  intro i from' before
  obtain rfl : i = above.length := by
    simp only at from' before
    omega
  simpa using changed

/-- A block above an index is edited in the one line in which the type ends. -/
theorem completingEdit_fits {lines : List Text} {index : Nat} {block : Location} (stop : Nat)
    (found : locateAt? lines index = some block)
    (free : ∀ line ∈ lines, ('\n' : CodePoint) ∉ line) :
    (completingEdit block stop).Fits lines ∧
      replaceLines lines block.firstLine block.lastLine
          (Text.lines (block.text.take stop ++ "<mixed>" ++ block.text.drop stop)) =
        (completingEdit block stop).apply lines := by
  obtain ⟨inside, last, order, text, _, _⟩ := locateAt?_above found
  have mixed : ('\n' : CodePoint) ∉ ("<mixed>" : Text) := by simp
  obtain ⟨above, left, front⟩ : ∃ above left, Text.lines (block.text.take stop) = above ++ [left] :=
    ⟨_, _, (List.dropLast_append_getLast (splitAt_ne_nil _ _)).symm⟩
  obtain ⟨right, below, back⟩ : ∃ right below, Text.lines (block.text.drop stop) = right :: below :=
    List.exists_cons_of_ne_nil (splitAt_ne_nil _ _)
  have old : (lines.take index).drop block.firstLine = above ++ (left ++ right) :: below := by
    have plain := lines_between front back (List.not_mem_nil (a := ('\n' : CodePoint)))
    simp only [List.append_nil, List.take_append_drop] at plain
    rw [← plain, text, lines_unlines_of_free]
    · apply List.ne_nil_of_length_pos
      simp only [List.length_drop, List.length_take]
      omega
    · exact fun line member => free line (List.mem_of_mem_take (List.mem_of_mem_drop member))
  have whole : lines = (lines.take block.firstLine ++ above) ++
      (left ++ right) :: (below ++ lines.drop index) := by
    have cut := List.take_append_drop block.firstLine (lines.take index)
    rw [List.take_take, Nat.min_eq_left (by omega), old] at cut
    conv_lhs => rw [← List.take_append_drop index lines, ← cut]
    simp
  have place : (lines.take block.firstLine ++ above).length = block.firstLine + above.length := by
    rw [List.length_append, List.length_take]
    omega
  have edit : completingEdit block stop = LineEdit.mk (lines.take block.firstLine ++ above).length
      ((lines.take block.firstLine ++ above).length + 1) [left ++ "<mixed>" ++ right] := by
    simp [completingEdit, front, back, place, Nat.add_assoc]
  have changed : left ++ "<mixed>" ++ right ≠ left ++ right := by
    intro same
    have length := congrArg List.length same
    have seven : ("<mixed>" : Text).length = 7 := by simp [ofString]
    simp only [List.length_append, seven] at length
    omega
  have newFree : ('\n' : CodePoint) ∉ left ++ "<mixed>" ++ right := by
    have leftFree : ('\n' : CodePoint) ∉ left :=
      not_mem_of_mem_splitAt (t := block.text.take stop) (by rw [← Text.lines, front]; simp)
    have rightFree : ('\n' : CodePoint) ∉ right :=
      not_mem_of_mem_splitAt (t := block.text.drop stop) (by rw [← Text.lines, back]; simp)
    simp [leftFree, mixed, rightFree]
  have replaced := replacingOne_fits (lines.take block.firstLine ++ above)
    (below ++ lines.drop index) changed newFree
  rw [← whole, ← edit] at replaced
  refine ⟨replaced.1, ?_⟩
  rw [replaced.2, replaceLines, lines_between front back mixed, last]
  simp

theorem Addition.editAt_fits (a : Addition) {lines : List Text} (index : Nat)
    (free : ∀ line ∈ lines, ('\n' : CodePoint) ∉ line) (inside : index < lines.length) :
    (a.editAt lines index).Fits lines := by
  have cut := a.editAt_cut index free
  have resume := a.editAt_resume index free
  have longer := a.editAt_longer index free
  have low : (a.editAt lines index).cut ≤ index := by
    rw [cut]
    split <;> omega
  refine ⟨by omega, by omega, by omega, ?_, a.editAt_free index free⟩
  intro i from' before
  rcases a.editAt_cases index free with
    ⟨closing, new, _, below, bottom, reclosed, _, same⟩ | ⟨_, _, _, _, same⟩
  · rw [same] at from' before ⊢
    simp only at from' before ⊢
    obtain rfl : i = index - 1 := by omega
    obtain ⟨first, start, _, changed⟩ := reclosed.head
    rw [Nat.sub_self, ← List.head?_eq_getElem?, start, bottom]
    simpa using changed
  · rw [same] at from' before
    simp only at from' before
    omega

/-- What a plan leaves of the lines of a file where it succeeds. -/
inductive Plan.Leaves (lines : List Text) : Plan → List Text → Prop
  | tag {a : Addition} {edited : List Text} (inside : a.index < lines.length)
    (done : a.insertAt? lines a.index = some edited) : Leaves lines (.tag a) edited
  | complete {line : Int} {tagName : Text} {variableName : Option Text} {block : Location}
    {stop : Nat} : Leaves lines (.complete line tagName variableName block stop)
      (replaceLines lines block.firstLine block.lastLine
        (Text.lines (block.text.take stop ++ "<mixed>" ++ block.text.drop stop)))
  | inline {line : Int} {variableName : Text} (inside : (line - 1).toNat < lines.length) :
    Leaves lines (.inline line variableName)
      (Fixer.insertInline lines (line - 1).toNat (Fixer.inlineBlock variableName))

theorem Plan.carryOut_leaves {issue : Issue} {content : Text} {p : Plan}
    (success : (p.carryOut issue content).isSuccess = true) :
    ∃ edited, p.Leaves (fileLines content) edited ∧
      (p.carryOut issue content).content = (LineEnding.detect content).join edited := by
  have failed : ∀ reason, (FixResult.failure issue content reason).isSuccess = false :=
    fun reason => rfl
  cases p with
  | tag a =>
    have own : (LineEnding.detect content).split content = fileLines content := rfl
    have place : (a.line - 1).toNat = a.index := rfl
    simp only [carryOut, Addition.apply, own, place] at success ⊢
    split at success
    · simp [failed] at success
    · rename_i outside
      rw [if_neg outside]
      split at success
      · simp [failed] at success
      · rename_i edited done
        simp only [Bool.or_eq_true, decide_eq_true_eq] at outside
        exact ⟨edited, .tag (by omega) done, rfl⟩
  | complete line tagName variableName block stop => exact ⟨_, .complete, rfl⟩
  | inline line variableName =>
    rw [carryOut] at success ⊢
    split at success
    · simp [failed] at success
    · rename_i outside
      rw [if_neg outside]
      split at success
      · simp [failed] at success
      · rename_i absent
        rw [if_neg absent]
        simp only [Bool.or_eq_true, decide_eq_true_eq] at outside
        exact ⟨_, .inline (by omega), rfl⟩

theorem Plan.carryOut_edit {analyze : Analyzer} {issue : Issue} {content : Text} {plan : Plan}
    (placed : plan.Placed analyze issue content)
    (free : ∀ line ∈ fileLines content, ('\n' : CodePoint) ∉ line)
    (success : (plan.carryOut issue content).isSuccess = true) :
    (plan.edit (fileLines content)).Fits (fileLines content) ∧
      (plan.carryOut issue content).content =
        (LineEnding.detect content).join
          ((plan.edit (fileLines content)).apply (fileLines content)) := by
  obtain ⟨edited, leaves, joined⟩ := carryOut_leaves success
  rw [joined]
  cases leaves with
  | @tag a _ inside done =>
    rw [a.insertAt?_eq a.index free] at done
    split at done
    · cases done
    · cases done
      exact ⟨a.editAt_fits a.index free inside, rfl⟩
  | @complete _ _ _ block stop =>
    obtain ⟨index, found⟩ := exists_locateAt?_of_locate? placed.2
    obtain ⟨fits, completed⟩ := completingEdit_fits stop found free
    exact ⟨fits, congrArg _ completed⟩
  | inline inside =>
    exact ⟨inlineEdit_fits inside free placed.2, congrArg _ (insertInline_eq ..)⟩

end DocRepair
