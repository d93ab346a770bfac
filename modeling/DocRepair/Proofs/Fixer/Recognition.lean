import DocRepair.Php.Source
import DocRepair.Proofs.Docblock.WholeType
import DocRepair.Proofs.Fixer.AddedTag
import DocRepair.Proofs.Issue.Names

/-!
Fixers that write only names recognise what they have written.

The value of a tag is built from a name that a message mentions, and it is read again by the family
of the tag. So a block that carries the tag is not given it a second time.
-/

namespace DocRepair

open Docblock Fixer Text

/-! ### Names in messages -/

namespace Message

variable {message name : Text}

theorem isName_of_firstName? {patterns : List Pattern}
    (grouped : patterns.all (Pattern.groupsIn 1 wordSet) = true)
    (found : firstName? patterns message = some name) : IsName name :=
  ⟨firstName?_ne_nil grouped found, firstName?_word grouped found⟩

theorem isName_propertyName? (found : propertyName? message = some name) : IsName name :=
  isName_of_firstName? (by decide) found

theorem isName_methodName? (found : methodName? message = some name) : IsName name :=
  isName_of_firstName? (by decide) found

theorem isName_parameterName? (found : parameterName? message = some name) : IsName name :=
  isName_of_firstName? (by decide) found

theorem mem_classNameSet {c : CodePoint} (held : classNameSet.holds c = true) :
    c = '\\' ∨ c.isWord = true := by
  have item : ('\\' : CodePoint) = c ∨ c.isWord = true := by
    simpa [CharSet.holds, classNameSet, SetItem.holds, CharClass.holds] using held
  exact item.imp_left Eq.symm

theorem isClassName_exceptionName? (found : exceptionName? message = some name) :
    IsClassName name where
  nonempty := firstName?_ne_nil (s := classNameSet) (by decide) found
  inside c member := mem_classNameSet (firstName?_within (by decide) found c member)

end Message

theorem Fixer.ClassTag.Mentions.isClassName {c : ClassTag} (mentions : c.Mentions)
    {message name : Text} (found : c.mention.find? 1 message = some name) : IsClassName name where
  nonempty := Pattern.find?_ne_nil mentions.grouped found
  inside d member := Message.mem_classNameSet (Pattern.find?_within mentions.grouped found d member)

/-! ### Reading names -/

namespace Docblock

theorem leadingRun?_whole {p : CodePoint → Bool} {run : Text} (nonempty : run ≠ [])
    (inside : ∀ c ∈ run, p c = true) : leadingRun? p run = some (run, none) := by
  have taken : run.takeWhile p = run := List.takeWhile_eq_self_iff.mpr inside
  have left : run.dropWhile p = [] := List.dropWhile_eq_nil_iff.mpr inside
  rw [leadingRun?, taken, left]
  obtain ⟨c, rest, rfl⟩ := List.exists_cons_of_ne_nil nonempty
  rfl

theorem dollar_text (name : Text) : ("$" : Text) ++ name = ('$' : CodePoint) :: name := by
  simp [ofString]

theorem leadingVariable?_name {name : Text} (named : IsName name) :
    leadingVariable? ("$" ++ name) = some ("$" ++ name, none) := by
  rw [dollar_text, leadingVariable?, if_pos rfl, leadingRun?_whole named.nonempty named.inside]
  rfl

end Docblock

theorem CodePoint.solid_of_name {c : CodePoint} (name : c = '\\' ∨ c.isWord = true) :
    c.isBlank = false ∧ opensBracket c = false ∧ c ≠ '$' := by
  refine ⟨not_blank_of_name name, ?_, ?_⟩
  · rw [← Bool.not_eq_true]
    intro bracket
    simp only [opensBracket, Bool.or_eq_true, beq_iff_eq] at bracket
    rcases bracket with ((rfl | rfl) | rfl) | rfl <;> revert name <;> decide
  · rintro rfl
    revert name
    decide

theorem IsName.isClassName {name : Text} (named : IsName name) : IsClassName name :=
  ⟨named.nonempty, fun c member => .inr (named.inside c member)⟩

namespace IsClassName

variable {name : Text} (named : IsClassName name)

include named

theorem contentLine : ContentLine name where
  head c first := CodePoint.not_blank_of_name (named.inside c (List.mem_of_mem_head? first))
  last c final := CodePoint.not_blank_of_name (named.inside c (List.mem_of_getLast? final))
  free member := by
    have solid := CodePoint.not_blank_of_name (named.inside _ member)
    revert solid
    decide

theorem isClassChar : ∀ c ∈ name, isClassChar c = true := by
  intro c member
  rcases named.inside c member with rfl | word
  · rfl
  · simp [Docblock.isClassChar, word]

theorem splitType? : Docblock.splitType? name = some (name, []) := by
  refine splitType?_solid named.nonempty ?_ fun c member => ?_
  · intro first
    exact (CodePoint.solid_of_name (named.inside _ (List.mem_of_mem_head? first))).2.2 rfl
  · obtain ⟨shown, plain, _⟩ := CodePoint.solid_of_name (named.inside c member)
    exact ⟨shown, plain⟩

end IsClassName

theorem IsName.contentLine_call {name : Text} (named : IsName name) :
    ContentLine (name ++ "()") where
  toTrimmed := trimmed_append named.nonempty (by decide) named.isClassName.contentLine.head
    (by decide)
  free := by simp [named.isClassName.contentLine.free]

theorem IsName.contentLine_variable {name : Text} (named : IsName name) :
    ContentLine (("$" : Text) ++ name) where
  toTrimmed := trimmed_append (by simp) named.nonempty (by decide)
    named.isClassName.contentLine.last
  free := by simpa using named.isClassName.contentLine.free

namespace Docblock

theorem splitType?_mixed {next : Text} (more : next ≠ []) (trimmed : Trimmed next) :
    splitType? ("mixed " ++ next) = some (("mixed" : Text), next) := by
  have solid : ∀ c ∈ ("mixed" : Text), c.isBlank = false ∧ opensBracket c = false := by decide
  have parts : ("mixed " : Text) ++ next = ("mixed" : Text) ++ (' ' : CodePoint) :: next := by
    simp [ofString]
  rw [parts]
  exact splitType?_seamless (by decide) (by decide) (by decide) (isSeamless_of_solid solid) more
    trimmed

theorem contentLine_mixed {next : Text} (more : next ≠ []) (line : ContentLine next) :
    ContentLine ("mixed " ++ next) where
  toTrimmed := trimmed_append (by simp) more (by decide) line.last
  free := by simp [line.free]

theorem signature?_name {name : Text} (named : IsName name) :
    signature? (name ++ "()") = some ⟨name, [], none⟩ := by
  have stop : ("()" : Text).takeWhile CodePoint.isWord = [] ∧
      stripLeft (("()" : Text).dropWhile CodePoint.isWord) = "()" := by decide
  have rest : Text.cut? (")" : Text) ")" = some ([], []) := by decide
  have bracket : ("()" : Text) = ('(' : CodePoint) :: (")" : Text) := by simp [ofString]
  rw [signature?, List.takeWhile_append_of_pos named.inside,
    List.dropWhile_append_of_pos named.inside, stop.1, stop.2, List.append_nil, bracket]
  obtain ⟨c, more, rfl⟩ := List.exists_cons_of_ne_nil named.nonempty
  simp [rest]

theorem readMethod?_mixed {name : Text} (named : IsName name) :
    readMethod? ("mixed " ++ (name ++ "()")) =
      some { type := some "mixed", name := some name, parameters := some [] } := by
  have other : startsWith ("mixed " ++ (name ++ "()")) staticMark = false := by
    simp [startsWith, staticMark, ofString, List.isPrefixOf]
  rw [readMethod?, if_neg (by simp [other]), methodBody?,
    splitType?_mixed (by simp) named.contentLine_call.toTrimmed]
  simp [signature?_name named]

end Docblock

private theorem lookup_of_mem {pairs : List (Text × TagFamily)}
    (unique : (pairs.map (·.1)).Nodup) {known : Text × TagFamily} (member : known ∈ pairs) :
    pairs.lookup known.1 = some known.2 := by
  obtain ⟨front, back, rfl⟩ := List.append_of_mem member
  refine List.lookup_eq_some_iff.mpr ⟨front, back, rfl, fun pair earlier => ?_⟩
  rw [List.map_append, List.map_cons, List.nodup_append] at unique
  simpa using (unique.2.2 pair.1 (List.mem_map_of_mem earlier) known.1 (by simp)).symm

theorem ofTag_of_mem {known : Text × TagFamily} (member : known ∈ knownTags) :
    TagFamily.ofTag known.1 = known.2 := by
  rw [TagFamily.ofTag, lookup_of_mem tagOrder_nodup member, Option.getD_some]

theorem isTag_of_mem_knownTags {known : Text × TagFamily} (member : known ∈ knownTags) :
    IsTag known.1 :=
  isTag_of_mem_tagOrder _ (List.mem_map_of_mem member)

/-! ### Tags that are recognised -/

/-- A tag is recognised in every block that it is added to, where a block has an end. -/
def Addition.Recognised (a : Addition) : Prop :=
  ∀ t : Text, (t.holds opener = true → t.holds closer = true) →
    a.present (parse (addTag t a.tag a.value)) = true

namespace Addition

variable {a : Addition}

theorem recognised_of_hasTag (isTag : IsTag a.tag)
    (present : ∀ annotations, annotations.hasTag a.tag = true → a.present annotations = true) :
    a.Recognised := by
  intro t closed
  have member := ofValue_mem_parse_addTag a.value isTag closed
  apply present
  simpa [Annotations.hasTag] using List.ne_nil_of_mem member

variable {entry : Entry} (isTag : IsTag a.tag) (line : ContentLine a.value)
  (read : (TagFamily.ofTag a.tag).read? a.value = some entry)

include isTag line read

/-- A tag that is looked for by its entry: its value has one line and is read by its family. -/
theorem recognised_of_entry
    (present : ∀ annotations : Annotations, entry ∈ annotations.listOf a.tag →
      a.present annotations = true) : a.Recognised := by
  intro t closed
  have member := ofValue_mem_parse_addTag a.value isTag closed
  rw [firstLine_eq_strip line.free, line.strip_eq, Entry.ofValue, read] at member
  exact present _ member

theorem recognised_of_name {name : Text} (named : entry.name = some name)
    (present : ∀ annotations : Annotations, annotations.hasName a.tag name = true →
      a.present annotations = true) : a.Recognised :=
  recognised_of_entry isTag line read fun annotations member =>
    present annotations (List.any_eq_true.mpr ⟨entry, member, by simp [named]⟩)

end Addition

/-! ### The fixers -/

namespace Fixer

open Addition

variable {issue : Issue} {tree : SourceTree} {a : Addition}

theorem returnAddition_recognised (done : returnAddition issue tree = .ok a) : a.Recognised := by
  obtain ⟨l, _, done⟩ := require_bind_ok done
  cases done
  have isTag : IsTag "return" := isTag_of_mem_tagOrder _ (by simp [tagOrder, knownTags])
  exact recognised_of_hasTag isTag fun _ => id

theorem purityAddition_recognised (done : purityAddition issue tree = .ok a) : a.Recognised := by
  obtain ⟨l, _, done⟩ := require_bind_ok done
  cases done
  have isTag : IsTag (purityTag issue.message) := by
    apply isTag_of_mem_tagOrder
    rw [purityTag]
    split
    · simp [tagOrder, knownTags]
    · split <;> simp [tagOrder, knownTags]
  exact recognised_of_hasTag isTag fun _ => id

theorem readonlyAddition_recognised (done : readonlyAddition issue tree = .ok a) :
    a.Recognised := by
  obtain ⟨name, _, done⟩ := require_bind_ok done
  obtain ⟨p, _, done⟩ := require_bind_ok done
  cases done
  have isTag : IsTag "readonly" := ⟨by decide, by decide⟩
  exact recognised_of_hasTag isTag fun _ => id

theorem throwsAddition_recognised (done : throwsAddition issue tree = .ok a) : a.Recognised := by
  obtain ⟨l, _, done⟩ := require_bind_ok done
  cases done
  have named : IsClassName ((Message.exceptionName? issue.message).getD "\\Exception") := by
    cases found : Message.exceptionName? issue.message with
    | none => exact ⟨by simp, by decide⟩
    | some name => exact Message.isClassName_exceptionName? found
  generalize (Message.exceptionName? issue.message).getD "\\Exception" = type at named ⊢
  have known : (("throws" : Text), TagFamily.result) ∈ knownTags := by simp [knownTags]
  have read : (TagFamily.ofTag "throws").read? type = some { type := some type } := by
    simp [ofTag_of_mem known, TagFamily.read?, named.splitType?, nonempty?]
  refine recognised_of_entry (isTag_of_mem_knownTags known) named.contentLine read
    fun annotations member => ?_
  exact List.any_eq_true.mpr ⟨_, member, by simp⟩

theorem callableAddition_recognised (done : callableAddition issue tree = .ok a) :
    a.Recognised := by
  obtain ⟨name, found, done⟩ := require_bind_ok done
  obtain ⟨l, _, done⟩ := require_bind_ok done
  cases done
  have named := Message.isName_parameterName? found
  have known : ((if l.isMethod then "param-later-invoked-callable"
      else "param-immediately-invoked-callable" : Text), TagFamily.callable) ∈ knownTags := by
    cases l.isMethod <;> simp [knownTags]
  have read : (TagFamily.ofTag (if l.isMethod then "param-later-invoked-callable"
      else "param-immediately-invoked-callable")).read? ("$" ++ name) =
        some { name := some ("$" ++ name) } := by
    rw [ofTag_of_mem known, TagFamily.read?, leadingVariable?_name named]
    rfl
  exact recognised_of_name (isTag_of_mem_knownTags known) named.contentLine_variable read rfl
    fun _ => id

theorem methodAddition_recognised (done : methodAddition issue tree = .ok a) : a.Recognised := by
  obtain ⟨name, found, done⟩ := require_bind_ok done
  obtain ⟨c, _, done⟩ := require_bind_ok done
  cases done
  have named := Message.isName_methodName? found
  have known : (("method" : Text), TagFamily.method) ∈ knownTags := by simp [knownTags]
  have read : (TagFamily.ofTag "method").read? ("mixed " ++ (name ++ "()")) =
      some { type := some "mixed", name := some name, parameters := some [] } := by
    rw [ofTag_of_mem known]
    exact readMethod?_mixed named
  have line := contentLine_mixed (by simp) named.contentLine_call
  rw [← List.append_assoc] at read line
  exact recognised_of_name (isTag_of_mem_knownTags known) line read rfl fun _ => id

/-- The tag of a property that is not declared; that of a declared one is `var`. -/
theorem propertyAddition_recognised (done : propertyAddition issue tree = .ok a)
    (undeclared : a.tag ≠ "var") : a.Recognised := by
  obtain ⟨name, found, done⟩ := require_bind_ok done
  obtain ⟨c, _, done⟩ := require_bind_ok done
  simp only at done
  split at done
  · cases done
    exact absurd rfl undeclared
  · cases done
    have named := Message.isName_propertyName? found
    have known : (("property" : Text), TagFamily.parameter) ∈ knownTags := by simp [knownTags]
    have read : (TagFamily.ofTag "property").read? ("mixed " ++ ("$" ++ name)) =
        some { type := some "mixed", name := some ("$" ++ name) } := by
      simp [ofTag_of_mem known, TagFamily.read?,
        splitType?_mixed _ named.contentLine_variable.toTrimmed, leadingVariable?_name named]
    have line := contentLine_mixed (by simp) named.contentLine_variable
    refine recognised_of_name (isTag_of_mem_knownTags known) line read rfl
      fun annotations present => ?_
    exact List.any_eq_true.mpr ⟨"property", by simp [propertyTags], present⟩

structure ClassTag.ReadsNames (c : ClassTag) : Prop extends c.Mentions where
  family : ∃ family, (c.tag, family) ∈ knownTags ∧ (family = .className ∨ family = .classList)
  present : ∀ name annotations, annotations.hasName c.tag name = true →
    c.present name annotations = true

theorem classAddition_recognised {c : ClassTag} (reads : c.ReadsNames)
    (done : classAddition c issue tree = .ok a) : a.Recognised := by
  obtain ⟨name, found, done⟩ := require_bind_ok done
  obtain ⟨owner, _, done⟩ := require_bind_ok done
  cases done
  have named := reads.isClassName found
  obtain ⟨family, known, kind⟩ := reads.family
  have listed : ∀ c ∈ name, isClassListChar c = true := fun c member => by
    simp [isClassListChar, named.isClassChar c member]
  have read : (TagFamily.ofTag c.tag).read? name = some { name := some name } := by
    rw [ofTag_of_mem known]
    rcases kind with rfl | rfl
    · simp [TagFamily.read?, leadingRun?_whole named.nonempty named.isClassChar]
    · simp [TagFamily.read?, leadingRun?_whole named.nonempty listed]
  exact recognised_of_name (isTag_of_mem_knownTags known) named.contentLine read rfl
    (reads.present name)

theorem requireExtends_readsNames : requireExtends.ReadsNames where
  toMentions := requireExtends_mentions
  family := ⟨.className, by simp [requireExtends, knownTags], .inl rfl⟩
  present _ _ := id

theorem requireImplements_readsNames : requireImplements.ReadsNames where
  toMentions := requireImplements_mentions
  family := ⟨.className, by simp [requireImplements, knownTags], .inl rfl⟩
  present _ _ := id

theorem sealedClass_readsNames : sealedClass.ReadsNames where
  toMentions := sealedClass_mentions
  family := ⟨.classList, by simp [sealedClass, knownTags], .inr rfl⟩
  present name annotations named := by
    obtain ⟨entry, member, _⟩ := List.any_eq_true.mp named
    show (!(annotations.listOf sealedClass.tag).isEmpty) = true
    simpa using List.ne_nil_of_mem member

/-! ### What is written is recognised -/

def nameFixers : List Text :=
  ["MissingReturnDocblockFixer", "MissingThrowsDocblockFixer", "ImpureFunctionFixer",
    "CallableTypeFixer", "MissingPropertyDocblockFixer", "UndefinedMethodFixer",
    "RequireExtendsFixer", "RequireImplementsFixer", "SealedClassFixer", "ReadonlyPropertyFixer"]

variable {analyze : Analyzer} {content : Text}

theorem exists_tree_of_tagPlan {target : Issue → Text → SourceTree → Except Obstacle Addition}
    (planned : tagPlan analyze target issue content = .ok (.tag a)) :
    ∃ tree, analyze content = some tree ∧ target issue content tree = .ok a := by
  rw [tagPlan] at planned
  split at planned
  · cases planned
  · rename_i tree read
    cases done : target issue content tree with
    | error reason => simp [done, Except.map] at planned
    | ok b =>
      rw [done] at planned
      cases planned
      exact ⟨tree, read, done⟩

/-- The tags that a fixer plans are recognised, but for those of declared properties. -/
def PlansNames (fixer : Fixer) (planner : Issue → Text → Except Obstacle Plan) : Prop :=
  fixer.name ∈ nameFixers → ∀ issue content a, planner issue content = .ok (.tag a) →
    a.tag ≠ "var" → a.Recognised

theorem plansNames_tagPlan {fixer : Fixer}
    {target : Issue → Text → SourceTree → Except Obstacle Addition}
    (recognised : ∀ issue content tree a, target issue content tree = .ok a → a.tag ≠ "var" →
      a.Recognised) : PlansNames fixer (tagPlan analyze target) := by
  intro _ issue content a planned undeclared
  obtain ⟨tree, _, done⟩ := exists_tree_of_tagPlan planned
  exact recognised issue content tree a done undeclared

theorem builtins_planNames (analyze : Analyzer) :
    List.Forall₂ PlansNames (builtins analyze) (plans analyze) := by
  have tagged := @plansNames_tagPlan analyze
  have absent : ∀ {fixer planner}, fixer.name ∉ nameFixers → PlansNames fixer planner :=
    fun other named => absurd named other
  exact .cons (tagged fun _ _ _ _ done _ => returnAddition_recognised done) <|
    .cons (absent (by simp [plain, nameFixers])) <|
    .cons (tagged fun _ _ _ _ done => propertyAddition_recognised done) <|
    .cons (tagged fun _ _ _ _ done _ => readonlyAddition_recognised done) <|
    .cons (absent (by simp [plain, nameFixers])) <|
    .cons (tagged fun _ _ _ _ done _ => methodAddition_recognised done) <|
    .cons (tagged fun _ _ _ _ done _ => throwsAddition_recognised done) <|
    .cons (tagged fun _ _ _ _ done _ => callableAddition_recognised done) <|
    .cons (absent (by simp [plain, nameFixers])) <|
    .cons (tagged fun _ _ _ _ done _ => purityAddition_recognised done) <|
    .cons (tagged fun _ _ _ _ done _ => classAddition_recognised sealedClass_readsNames done) <|
    .cons (tagged fun _ _ _ _ done _ => classAddition_recognised requireExtends_readsNames done) <|
    .cons (tagged fun _ _ _ _ done _ =>
      classAddition_recognised requireImplements_readsNames done) <|
    .cons (absent (by simp [plain, nameFixers])) .nil

end Fixer

/-- What stands above a declaration: nothing, or a block. -/
def IsAbove (t : Text) : Prop :=
  t = [] ∨ ∃ lines anchor block, Docblock.locate? lines anchor = some block ∧ block.text = t

theorem IsAbove.closed {t : Text} (above : IsAbove t) :
    t.holds opener = true → t.holds closer = true := by
  rcases above with rfl | ⟨lines, anchor, block, found, rfl⟩
  · exact fun opened => by cases opened
  · obtain ⟨index, found⟩ := exists_locateAt?_of_locate? found
    obtain ⟨_, before, after, parts, _⟩ := (locateAt?_above found).text_parts
    exact fun _ => (holds_iff_isInfix _ _).mpr ⟨before, after, parts.symm⟩

/-- A fixer that writes only names recognises the tag in the block that it has added it to, whatever
stood there before. So the tag is never added to that block a second time. -/
theorem written_names_recognised {analyze : Analyzer} {issue : Issue} {content t : Text}
    {a : Addition} {fixer : Fixer} {planner : Issue → Text → Except Obstacle Plan}
    (builtin : (fixer, planner) ∈ (builtins analyze).zip (plans analyze))
    (byName : fixer.name ∈ nameFixers) (planned : planner issue content = .ok (.tag a))
    (undeclared : a.tag ≠ "var") (above : IsAbove t) :
    fixer.fix issue content = .ok (a.apply issue content) ∧
      a.present (parse (addTag t a.tag a.value)) = true ∧
      ∀ lines index block, locateAt? lines index = some block →
        block.text = addTag t a.tag a.value → a.insertAt? lines index = none := by
  have follows := (List.forall₂_iff_zip.mp (builtins_follow analyze)).2 builtin
  have names := (List.forall₂_iff_zip.mp (builtins_planNames analyze)).2 builtin
  have present := names byName issue content a planned undeclared t above.closed
  refine ⟨by rw [follows, planned]; rfl, present, fun lines index block found same => ?_⟩
  rw [Addition.insertAt?, found]
  simp only [same, present, ↓reduceIte]

def documentedClass : Text := "<?php\n/**\n * @method mixed foo()\n */\nclass Foo \x7b\x7d\n"

def undocumentedCall : Issue :=
  ⟨"a.php", 5, "Call to an undefined method Foo::bar().", none, none⟩

/-- The other method is added to the block, and then it is there. -/
theorem written_names_recognised_sample :
    addTag "/**\n * @method mixed foo()\n */" "method" "mixed bar()" =
        "/**\n * @method mixed foo()\n * @method mixed bar()\n */" ∧
      ∃ a : Addition, a.tag = "method" ∧ a.value = "mixed bar()" ∧
        fixUndefinedMethod Php.declarations? undocumentedCall documentedClass =
          .ok (a.apply undocumentedCall documentedClass) ∧
        a.present (parse (addTag "/**\n * @method mixed foo()\n */" a.tag a.value)) = true := by
  have tree : Php.declarations? documentedClass = some
      { classes := [{ name := "Foo", kind := .plain, firstLine := 5, lastLine := 5 }] } := by
    decide +kernel
  have name : Message.methodName? undocumentedCall.message = some "bar" := by decide +kernel
  have owner : SourceTree.locateClass?
      { classes := [{ name := "Foo", kind := .plain, firstLine := 5, lastLine := 5 }] }
      undocumentedCall.line =
        some { name := "Foo", kind := .plain, firstLine := 5, lastLine := 5 } := by
    decide +kernel
  have value : ("mixed " : Text) ++ ("bar" : Text) ++ ("()" : Text) = "mixed bar()" := by decide
  obtain ⟨a, tag, value, planned⟩ : ∃ a : Addition, a.tag = "method" ∧ a.value = "mixed bar()" ∧
      tagPlan Php.declarations? (fun issue _ tree => methodAddition issue tree)
        undocumentedCall documentedClass = .ok (.tag a) := by
    simp only [tagPlan, tree, methodAddition, name, owner, require, bind, Except.bind]
    exact ⟨_, rfl, value, rfl⟩
  have builtin : (plain "UndefinedMethodFixer" 0 "Adds @method annotations for undefined methods"
      Message.isUndefinedMethod (fixUndefinedMethod Php.declarations?),
      tagPlan Php.declarations? fun issue _ tree => methodAddition issue tree) ∈
      (builtins Php.declarations?).zip (plans Php.declarations?) :=
    List.mem_iff_getElem?.mpr ⟨5, rfl⟩
  have above : IsAbove "/**\n * @method mixed foo()\n */" :=
    .inr ⟨documentedClass.lines, 4, ⟨"/**\n * @method mixed foo()\n */", 1, 3⟩,
      by decide +kernel, rfl⟩
  have different : a.tag ≠ "var" := by simp [tag]
  obtain ⟨fixed, present, _⟩ := written_names_recognised builtin (by simp [plain, nameFixers])
    planned different above
  simp only [plain] at fixed
  exact ⟨by decide +kernel, a, tag, value, fixed, present⟩

end DocRepair
