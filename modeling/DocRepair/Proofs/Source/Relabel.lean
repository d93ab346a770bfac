import DocRepair.Source.Locate

namespace DocRepair

/-- The same function or method with other line numbers. -/
def Callable.relabel (f : Int → Int) (c : Callable) : Callable :=
  { c with firstLine := f c.firstLine, lastLine := f c.lastLine }

/-- The same property with another line number. -/
def Property.relabel (f : Int → Int) (p : Property) : Property :=
  { p with line := f p.line }

/-- The same class with other line numbers. -/
def ClassLike.relabel (f : Int → Int) (c : ClassLike) : ClassLike :=
  { c with
    firstLine := f c.firstLine
    lastLine := f c.lastLine
    methods := c.methods.map (·.relabel f)
    properties := c.properties.map (·.relabel f) }

/-- The same declarations with other line numbers. -/
def SourceTree.relabel (f : Int → Int) (tree : SourceTree) : SourceTree :=
  { tree with
    functions := tree.functions.map (·.relabel f)
    classes := tree.classes.map (·.relabel f) }

/-- The declarations after lines have been added before a line: everything from there on moves. -/
def SourceTree.movedFrom (tree : SourceTree) (line added : Int) : SourceTree :=
  tree.relabel fun n => if line ≤ n then n + added else n

/-- The same declaration with other line numbers. -/
def Located.relabel (f : Int → Int) (l : Located) : Located :=
  ⟨l.declaration.relabel f, l.owner.map (·.relabel f)⟩

@[simp] theorem Located.line_relabel (f : Int → Int) (l : Located) :
    (l.relabel f).line = f l.line :=
  rfl

namespace SourceTree

theorem relabel_id (tree : SourceTree) : tree.relabel id = tree := by
  simp [relabel, ClassLike.relabel, Callable.relabel, Property.relabel]

theorem relabel_relabel (f g : Int → Int) (tree : SourceTree) :
    (tree.relabel f).relabel g = tree.relabel (g ∘ f) := by
  simp [relabel, ClassLike.relabel, Callable.relabel, Property.relabel, Function.comp_def]

theorem callables_relabel (f : Int → Int) (tree : SourceTree) :
    (tree.relabel f).callables = tree.callables.map (·.relabel f) := by
  simp [callables, relabel, List.flatMap_map, List.map_flatMap, ClassLike.relabel,
    Located.relabel, Function.comp_def]

/-- Lines before a place keep their numbers, and those from there on do not come before it. -/
structure KeepsBefore (place : Int) (f : Int → Int) : Prop where
  before : ∀ n < place, f n = n
  after : ∀ n, place ≤ n → place ≤ f n

theorem keepsBefore_id (place : Int) : KeepsBefore place id :=
  ⟨fun _ _ => rfl, fun _ later => later⟩

theorem KeepsBefore.moved {place line added : Int} {f : Int → Int} (keeps : KeepsBefore place f)
    (early : line < place) (grows : 0 ≤ added) :
    KeepsBefore line ((fun n => if line ≤ n then n + added else n) ∘ f) where
  before := by
    intro n below
    simp [keeps.before n (by omega), Int.not_le.mpr below]
  after := by
    intro n above
    by_cases inside : n < place
    · simp only [Function.comp_apply, keeps.before n inside, above, ↓reduceIte]
      omega
    · have far := keeps.after n (by omega)
      have here : line ≤ f n := by omega
      simp only [Function.comp_apply, here, ↓reduceIte]
      omega

theorem isNear_signature (line target : Int) :
    isNear signatureTolerance line target = true ↔ line = target := by
  rw [isNear, signatureTolerance, decide_eq_true_eq]
  omega

/-- Where declarations keep their numbers, the same ones are found. -/
theorem locate?_relabel {place line : Int} {f : Int → Int} (tree : SourceTree)
    (keeps : KeepsBefore place f) (early : line < place) :
    (tree.relabel f).locate? line signatureTolerance =
      (tree.locate? line signatureTolerance).map (·.relabel f) := by
  have same : (fun l : Located => isNear signatureTolerance (l.relabel f).line line) =
      fun l => isNear signatureTolerance l.line line := by
    funext l
    rw [Located.line_relabel, Bool.eq_iff_iff, isNear_signature, isNear_signature]
    by_cases inside : l.line < place
    · rw [keeps.before _ inside]
    · have far := keeps.after l.line (by omega)
      omega
  rw [locate?, callables_relabel, List.find?_map, locate?]
  simp only [Function.comp_def, same]

theorem line_of_locate? {tree : SourceTree} {line : Int} {l : Located}
    (found : tree.locate? line signatureTolerance = some l) : l.line = line := by
  have near := List.find?_some found
  exact (isNear_signature _ _).mp near

theorem mem_of_locate? {tree : SourceTree} {line : Int} {l : Located}
    (found : tree.locate? line signatureTolerance = some l) : l ∈ tree.callables :=
  List.mem_of_find?_eq_some found

end SourceTree

end DocRepair
