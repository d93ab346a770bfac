import DocRepair.Proofs.Fixer.AnnotationFrame
import DocRepair.Proofs.Fixer.Recognition
import DocRepair.Proofs.Outcome

/-!
Which copied types a fixer recognises in the tag that it has written.

A type goes into a tag as it stands in the source. It is read again up to the first white space
outside brackets, and a class name up to the first code point that is no part of a name. So a union
with spaces around its bar is written again and again.
-/

namespace DocRepair

open Docblock Fixer Text

/-! ### Entries of a new block -/

namespace Docblock

theorem addTag_nil (tag value : Text) :
    addTag [] tag value = unlines (newBlock [] tag value) := by
  have missing : holds [] opener = false := rfl
  rw [addTag, if_neg (by simp [missing]), single, newBlock]
  simp [unlines, join, newline, opener, ofString]

/-- A code point that stands in a text once begins the rest of it. -/
theorem isPrefix_of_cons_isInfix {c : CodePoint} {front rest t : Text} (before : c ∉ front)
    (after : c ∉ rest) (inside : c :: t <:+: front ++ c :: rest) : t <+: rest := by
  obtain ⟨left, right, parts⟩ := inside
  have parts : front ++ c :: rest = left ++ c :: (t ++ right) := by simp [← parts]
  obtain ⟨rfl, _, same⟩ := (List.append_cons_inj_of_notMem before after).mp parts
  exact ⟨right, same.symm⟩

theorem head_of_tagLine? {line tag value : Text} (read : tagLine? line = some (tag, value)) :
    ∃ rest, line = ('@' : CodePoint) :: rest := by
  match line, read with
  | c :: d :: rest, read =>
    simp only [tagLine?] at read
    split at read
    · rename_i marked
      exact ⟨d :: rest, by rw [marked.1]⟩
    · cases read

/-- The name of an entry stands behind the mark of a tag, on the same line. -/
theorem exists_line_of_entry {t tag : Text} {entry : Entry}
    (member : entry ∈ (parse t).listOf tag) :
    ∃ line, ('@' : CodePoint) :: line <:+: t ∧ ('\n' : CodePoint) ∉ line ∧
      ∀ name ∈ entry.name, name <:+: ('@' : CodePoint) :: line := by
  rw [listOf_parse] at member
  obtain ⟨pair, inside, rfl⟩ := List.mem_map.mp member
  obtain ⟨line, present, read⟩ := List.mem_filterMap.mp (List.mem_filter.mp inside).1
  obtain ⟨⟨own, value⟩, tagged, rfl⟩ := Option.map_eq_some_iff.mp read
  have content := contentLine_of_mem present
  have valued := (tagLine?_eq_some content tagged).2
  have part := tagLine?_isInfix tagged
  obtain ⟨rest, rfl⟩ := head_of_tagLine? tagged
  refine ⟨rest, contentLines_isInfix present, fun feed => content.free (by simp [feed]), ?_⟩
  intro name named
  rcases Entry.ofValue_cases own valued.toTrimmed with ⟨shaped, _⟩ | ⟨_, raw, _⟩
  · exact ((TagFamily.read?_within valued.toTrimmed shaped).name name named).trans part
  · simp [raw] at named

structure IsTypeText (type : Text) : Prop extends Trimmed type where
  nonempty : type ≠ []
  noVariable : ('$' : CodePoint) ∉ type
  noTag : ('@' : CodePoint) ∉ type
  noColon : (':' : CodePoint) ∉ type

variable {tag type name : Text}

theorem typed_text (type name : Text) :
    type ++ " " ++ ("$" ++ name) = type ++ (' ' : CodePoint) :: ('$' : CodePoint) :: name := by
  simp [ofString]

theorem plain_of_known
    (known : (tag, TagFamily.parameter) ∈ knownTags ∨ (tag, TagFamily.variable) ∈ knownTags) :
    ('@' : CodePoint) ∉ tag ∧ ('$' : CodePoint) ∉ tag := by
  have plain : ∀ known ∈ knownTags, ('@' : CodePoint) ∉ known.1 ∧ ('$' : CodePoint) ∉ known.1 := by
    simp [knownTags]
  exact known.elim (plain _) (plain _)

/-- A part without a line feed lies before the first line feed. -/
theorem isPrefix_of_not_mem {c : CodePoint} {part front rest : Text} (free : c ∉ part)
    (inside : part <+: front ++ c :: rest) : part <+: front := by
  rcases List.prefix_or_prefix_of_prefix inside (List.prefix_append front (c :: rest)) with
    short | ⟨more, rfl⟩
  · exact short
  · cases more with
    | nil => simp
    | cons d more =>
      obtain ⟨rfl, _⟩ : d = c ∧ more <+: rest := by simpa using inside
      simp at free

section

variable (written : IsTypeText type) (named : IsName name)

include written named

theorem trimmed_typed : Trimmed (type ++ " " ++ ("$" ++ name)) := by
  rw [List.append_assoc]
  refine trimmed_append written.nonempty (by simp) written.head ?_
  exact last_append (by simp) named.contentLine_variable.last

theorem not_hasName_of_lineFeed (plain : ('@' : CodePoint) ∉ tag ∧ ('$' : CodePoint) ∉ tag)
    (feed : ('\n' : CodePoint) ∈ type) :
    (parse (addTag [] tag (type ++ " " ++ ("$" ++ name)))).hasName tag ("$" ++ name) = false := by
  rw [← Bool.not_eq_true]
  intro present
  obtain ⟨entry, member, same⟩ := List.any_eq_true.mp present
  obtain ⟨line, inside, single, within⟩ := exists_line_of_entry member
  have dollar : ('$' : CodePoint) ∈ line := by
    have part := within _ (by simpa using same)
    rw [dollar_text] at part
    simpa using part.subset List.mem_cons_self
  have noTag : ('@' : CodePoint) ∉ name := fun member => by
    have word := named.inside _ member
    revert word
    decide
  obtain ⟨first, others, parts, noFeed⟩ := List.eq_append_cons_of_mem feed
  have whole : addTag [] tag (type ++ " " ++ ("$" ++ name)) = ("/**\n * " : Text) ++
      ('@' : CodePoint) :: (tag ++ (' ' : CodePoint) :: first ++ ('\n' : CodePoint) ::
        (others ++ (' ' : CodePoint) :: ('$' : CodePoint) :: name ++ ("\n */" : Text))) := by
    have missing : holds [] opener = false := rfl
    rw [addTag, if_neg (by simp [missing]), Docblock.single, (trimmed_typed written named).strip_eq,
      tagText_of_ne_nil tag (by simp), typed_text, parts]
    simp
  have rest : line <+: tag ++ (' ' : CodePoint) :: first ++ ('\n' : CodePoint) ::
      (others ++ (' ' : CodePoint) :: ('$' : CodePoint) :: name ++ ("\n */" : Text)) := by
    rw [whole] at inside
    have noTag' := written.noTag
    rw [parts] at noTag'
    refine isPrefix_of_cons_isInfix (by simp) ?_ inside
    simp only [List.mem_append, List.mem_cons, not_or] at noTag' ⊢
    simp [plain.1, noTag, noTag']
  have short := (isPrefix_of_not_mem single rest).subset dollar
  have noVariable := written.noVariable
  rw [parts] at noVariable
  simp only [List.mem_append, List.mem_cons, not_or] at noVariable
  simp [plain.2, noVariable] at short

/-- A scan that leaves a variable has stopped behind the type. -/
theorem isSeamless_of_split {split rest : Text} {text : Option Text}
    (cut : splitType? (type ++ " " ++ ("$" ++ name)) = some (split, rest))
    (read : leadingVariable? rest = some ("$" ++ name, text)) : IsSeamless 0 type := by
  obtain ⟨closed, taken, left, _, _⟩ := splitType?_eq_some_iff.mp cut
  have parts := scanType_append 0 false (type ++ " " ++ ("$" ++ name)).strip
  have stops := head_rest_scanType 0 false (type ++ " " ++ ("$" ++ name)).strip
  rw [(trimmed_typed written named).strip_eq, typed_text] at closed taken left parts stops
  have own : scanType 0 false (type ++ (' ' : CodePoint) :: ('$' : CodePoint) :: name) =
      ⟨type, (' ' : CodePoint) :: ('$' : CodePoint) :: name, 0⟩ → IsSeamless 0 type :=
    (scanType_eq_iff written.noColon 0 _).mp
  generalize scanType 0 false (type ++ (' ' : CodePoint) :: ('$' : CodePoint) :: name) = scan at *
  obtain ⟨tail, run, start, _, _⟩ := leadingVariable?_eq_some read
  obtain ⟨after, spread, _⟩ := exists_indent_strip scan.rest
  rw [left, start] at spread
  -- The variable is the only one, so the type and the white space behind it are what precedes it.
  have before : type ++ [(' ' : CodePoint)] = scan.type ++ scan.rest.indent := by
    have absent : ('$' : CodePoint) ∉ type ++ [(' ' : CodePoint)] := by
      simpa using written.noVariable
    have once : ('$' : CodePoint) ∉ name := fun member => by
      have word := named.inside _ member
      revert word
      decide
    have whole : (type ++ [(' ' : CodePoint)]) ++ ('$' : CodePoint) :: name =
        (scan.type ++ scan.rest.indent) ++ ('$' : CodePoint) :: (tail ++ after) := by
      rw [List.append_assoc, List.singleton_append, ← parts]
      conv_lhs => rw [spread]
      simp
    exact ((List.append_cons_inj_of_notMem absent once).mp whole).1
  have blank := indent_blank scan.rest
  cases gap : scan.rest.indent using List.reverseRecOn with
  | nil =>
    rw [gap] at spread
    exact absurd (stops ('$' : CodePoint) (by rw [spread]; rfl)) (by decide)
  | append_singleton front c =>
    rw [gap] at before blank
    have same : type = scan.type ++ front := by
      rw [← List.append_assoc] at before
      exact (List.append_inj' before rfl).1
    have empty : front = [] := by
      by_contra some
      have last := written.last (front.getLast some) (by
        rw [same, List.getLast?_append, List.getLast?_eq_some_getLast some]
        rfl)
      rw [blank _ (List.mem_append_left _ (List.getLast_mem some))] at last
      cases last
    rw [empty, List.append_nil] at same
    rw [← same] at parts
    have rest := List.append_cancel_left parts
    apply own
    obtain ⟨_, _, _⟩ := scan
    simp_all

theorem read?_typed {family : TagFamily} (kind : family = .parameter ∨ family = .variable)
    (seamless : IsSeamless 0 type) :
    family.read? (type ++ " " ++ ("$" ++ name)) =
      some { type := some type, name := some ("$" ++ name) } := by
  have first : type.head? ≠ some ('$' : CodePoint) := fun found =>
    written.noVariable (List.mem_of_mem_head? found)
  have split : splitType? (type ++ " " ++ ("$" ++ name)) = some (type, "$" ++ name) := by
    rw [typed_text, ← dollar_text]
    exact splitType?_seamless written.nonempty first written.noColon seamless (by simp)
      named.contentLine_variable.toTrimmed
  exact TagFamily.read?_eq_some_iff.mpr (.named kind split (leadingVariable?_name named))

theorem isSeamless_of_read? {family : TagFamily} {entry : Entry}
    (kind : family = .parameter ∨ family = .variable)
    (read : family.read? (type ++ " " ++ ("$" ++ name)) = some entry)
    (own : entry.name = some ("$" ++ name)) : IsSeamless 0 type := by
  cases TagFamily.read?_eq_some_iff.mp read with
  | named _ split found =>
    obtain rfl : _ = ("$" : Text) ++ name := by simpa using own
    exact isSeamless_of_split written named split found
  | described => simp at own
  | run other => rcases kind with rfl | rfl <;> simp at other
  | callable => simp at kind
  | flag => simp at kind
  | method => simp at kind

/-- A variable behind a copied type is read exactly if the type stands on one line and is
seamless. -/
theorem hasName_typed_iff
    (known : (tag, TagFamily.parameter) ∈ knownTags ∨ (tag, TagFamily.variable) ∈ knownTags) :
    (parse (addTag [] tag (type ++ " " ++ ("$" ++ name)))).hasName tag ("$" ++ name) = true ↔
      ('\n' : CodePoint) ∉ type ∧ IsSeamless 0 type := by
  have trimmed := trimmed_typed written named
  have isTag : IsTag tag := known.elim isTag_of_mem_knownTags isTag_of_mem_knownTags
  have kind : TagFamily.ofTag tag = .parameter ∨ TagFamily.ofTag tag = .variable :=
    known.imp ofTag_of_mem ofTag_of_mem
  have alone : ('\n' : CodePoint) ∉ type →
      ((parse (addTag [] tag (type ++ " " ++ ("$" ++ name)))).hasName tag ("$" ++ name) = true ↔
        (Entry.ofValue tag (type ++ " " ++ ("$" ++ name))).name = some ("$" ++ name)) := by
    intro single
    have free : ('\n' : CodePoint) ∉ type ++ " " ++ ("$" ++ name) := by
      simp [single, named.isClassName.contentLine.free]
    rw [Annotations.hasName, addTag_nil, listOf_parse_newBlock (by simp) isTag free, if_pos rfl,
      trimmed.strip_eq]
    simp only [List.any_cons, List.any_nil, Bool.or_false, beq_iff_eq]
  constructor
  · intro present
    have single : ('\n' : CodePoint) ∉ type := by
      intro feed
      rw [not_hasName_of_lineFeed written named (plain_of_known known) feed] at present
      cases present
    rw [alone single] at present
    rcases Entry.ofValue_cases tag trimmed with ⟨read, _⟩ | ⟨_, raw, _⟩
    · exact ⟨single, isSeamless_of_read? written named kind read present⟩
    · rw [raw] at present
      cases present
  · rintro ⟨single, seamless⟩
    rw [alone single, Entry.ofValue, read?_typed written named kind seamless]
    rfl

end

/-- The names of a tag with class names are made of code points of class names. -/
theorem isClassChar_of_entry {t : Text} {entry : Entry}
    (known : (tag, TagFamily.className) ∈ knownTags) (member : entry ∈ (parse t).listOf tag)
    (own : entry.name = some name) : ∀ c ∈ name, isClassChar c = true := by
  obtain ⟨_, value, line, rfl⟩ := exists_value_of_mem_parse member
  rcases Entry.ofValue_cases tag line.toTrimmed with ⟨shaped, _⟩ | ⟨_, raw, _⟩
  · rw [ofTag_of_mem known] at shaped
    generalize Entry.ofValue tag value = entry at shaped own
    cases TagFamily.read?_eq_some_iff.mp shaped with
    | run kind run =>
      obtain rfl : _ = isClassChar := by simpa using kind
      obtain rfl : _ = name := by simpa using own
      exact (leadingRun?_cases line.last run).2.1
    | named kind => simp at kind
    | described kind => simp at kind
  · rw [raw] at own
    cases own

end Docblock

/-! ### The class of a mixin -/

namespace Fixer

theorem dropBackslashes_again (t : Text) :
    dropBackslashes (dropBackslashes t) = dropBackslashes t :=
  List.dropWhile_idempotent _ t

theorem dropBackslashes_mixinClass? {lines : List Text} {c : ClassLike} {magic : List Callable}
    {type : Text} (found : mixinClass? lines c magic = some type) :
    dropBackslashes type = type := by
  have property : ∀ properties, firstClass? lines properties = some type →
      dropBackslashes type = type := by
    intro properties found
    obtain ⟨p, _, found⟩ := List.exists_of_findSome?_eq_some found
    have found := eq_some_of_nonempty? found
    rw [propertyClass?] at found
    split at found
    · cases found
      exact dropBackslashes_again _
    · obtain ⟨block, _, found⟩ := Option.bind_eq_some_iff.mp found
      obtain ⟨entry, _, found⟩ := Option.bind_eq_some_iff.mp found
      obtain ⟨documented, _, found⟩ := Option.bind_eq_some_iff.mp found
      cases found
      exact dropBackslashes_again _
  simp only [mixinClass?, Option.orElse_eq_or, Option.or_eq_some_iff] at found
  rcases found with first | ⟨_, second | ⟨_, third⟩⟩
  · exact property _ first
  · exact property _ second
  · obtain ⟨block, _, found⟩ := Option.bind_eq_some_iff.mp third
    obtain ⟨entry, _, found⟩ := List.exists_of_findSome?_eq_some found
    obtain ⟨name, _, found⟩ := Option.bind_eq_some_iff.mp found
    obtain ⟨documented, _, found⟩ := Option.bind_eq_some_iff.mp found
    split at found
    · cases found
      exact dropBackslashes_again _
    · cases found

/-! ### Which types are recognised -/

variable {analyze : Analyzer} {issue : Issue} {content : Text} {tree : SourceTree} {a : Addition}

/-- Whether a tag is found in the block that is made of it alone. -/
def RecognisesOwn (a : Addition) : Prop :=
  a.present (parse (addTag [] a.tag a.value)) = true

/-- A tag with a type and a variable is recognised exactly if the type stands on one line, its white
space is between brackets and its brackets are closed. -/
def RecognisesSeamless (a : Addition) (type : Text) : Prop :=
  (∃ name, a.value = type ++ " " ++ ("$" ++ name)) ∧
    (IsTypeText type → (RecognisesOwn a ↔ ('\n' : CodePoint) ∉ type ∧ IsSeamless 0 type))

theorem recognisesSeamless {tag type name : Text} (tagged : a.tag = tag)
    (valued : a.value = type ++ " " ++ ("$" ++ name))
    (present : ∀ annotations : Annotations,
      a.present annotations = annotations.hasName tag ("$" ++ name))
    (known : (tag, TagFamily.parameter) ∈ knownTags ∨ (tag, TagFamily.variable) ∈ knownTags)
    (named : IsName name) : RecognisesSeamless a type := by
  refine ⟨⟨name, valued⟩, fun written => ?_⟩
  rw [RecognisesOwn, present, tagged, valued]
  exact hasName_typed_iff written named known

theorem parameterAddition_recognises (done : parameterAddition issue tree = .ok a) :
    ∃ name position l, Message.parameterName? issue.message = some name ∧
      Message.parameterPosition? issue.message = .ok position ∧
      tree.locate? issue.line SourceTree.bodyTolerance = some l ∧
      RecognisesSeamless a (parameterType l.declaration name (position.getD 0)) := by
  obtain ⟨name, found, done⟩ := require_bind_ok done
  obtain ⟨position, placed, done⟩ := Outcome.bind_eq_ok_iff.mp done
  obtain ⟨l, located, done⟩ := require_bind_ok done
  cases done
  have named := Message.isName_parameterName? found
  have known : (("param" : Text), TagFamily.parameter) ∈ knownTags := by simp [knownTags]
  exact ⟨name, position, l, found, Outcome.mapError_eq_ok_iff.mp placed, located,
    recognisesSeamless rfl rfl (fun _ => rfl) (.inl known) named⟩

theorem propertyAddition_recognises (done : propertyAddition issue tree = .ok a)
    (declared : a.tag = "var") :
    ∃ name c p, Message.propertyName? issue.message = some name ∧
      tree.locateClass? issue.line = some c ∧ c.property? name = some p ∧
      RecognisesSeamless a (declaredType p) := by
  obtain ⟨name, found, done⟩ := require_bind_ok done
  obtain ⟨c, located, done⟩ := require_bind_ok done
  simp only at done
  split at done
  · rename_i p member
    cases done
    have named := Message.isName_propertyName? found
    have known : (("var" : Text), TagFamily.variable) ∈ knownTags := by simp [knownTags]
    exact ⟨name, c, p, found, located, member,
      recognisesSeamless rfl rfl (fun _ => rfl) (.inr known) named⟩
  · cases done
    simp at declared

theorem isClassName_of_recognised {mixin name : Text} {entry : Entry}
    (member : entry ∈ (parse (addTag [] "mixin" mixin)).listOf "mixin")
    (own : entry.name = some name) (same : dropBackslashes name = mixin) : IsClassName mixin := by
  have known : (("mixin" : Text), TagFamily.className) ∈ knownTags := by simp [knownTags]
  have isTag := isTag_of_mem_knownTags known
  refine ⟨?_, fun c inside => ?_⟩
  · rintro rfl
    rw [addTag_nil, listOf_parse_newBlock (by simp) isTag (by simp), if_pos rfl,
      List.mem_singleton] at member
    subst member
    have raw : (Entry.ofValue "mixin" (strip [])).name = none := by
      rw [Entry.ofValue, ofTag_of_mem known]
      rfl
    rw [raw] at own
    cases own
  · have part : c ∈ name := by
      rw [← same] at inside
      exact (List.dropWhile_suffix _).subset inside
    have char := isClassChar_of_entry known member own c part
    simpa [isClassChar, or_comm] using char

/-- The class of a mixin is recognised exactly if it is made of code points of class names. -/
theorem mixinAddition_recognises (done : mixinAddition issue content tree = .ok a) :
    ∃ c, tree.locateClass? issue.line = some c ∧
      mixinClass? (plainLines content) c (magicMethods.filterMap c.method?) = some a.value ∧
      (RecognisesOwn a ↔ IsClassName a.value) := by
  obtain ⟨c, located, done⟩ := require_bind_ok done
  simp only at done
  split at done
  · cases done
  · obtain ⟨mixin, found, done⟩ := require_bind_ok done
    cases done
    refine ⟨c, located, found, ?_⟩
    simp only [RecognisesOwn, List.any_eq_true, Option.any_eq_true, beq_iff_eq]
    constructor
    · rintro ⟨entry, member, name, own, same⟩
      exact isClassName_of_recognised member own same
    · intro named
      have known : (("mixin" : Text), TagFamily.className) ∈ knownTags := by simp [knownTags]
      have member := ofValue_mem_parse_addTag (t := []) mixin (isTag_of_mem_knownTags known)
        (fun opened => by cases opened)
      have read : TagFamily.className.read? mixin = some { name := some mixin } := by
        rw [TagFamily.read?, leadingRun?_whole named.nonempty named.isClassChar]
        rfl
      rw [firstLine_eq_strip named.contentLine.free, named.contentLine.strip_eq, Entry.ofValue,
        ofTag_of_mem known, read] at member
      exact ⟨_, member, mixin, rfl, dropBackslashes_mixinClass? found⟩

end Fixer

/-- A fixer that copies a type recognises its own tag for some types only. The type of a parameter
or of a declared property has to stand on one line, with its white space between brackets and its
brackets closed; the class of a mixin has to be a class name. -/
theorem copied_type_recognised {analyze : Analyzer} {content : Text} {tree : SourceTree}
    (read : analyze content = some tree) (issue : Issue) (a : Addition) :
    (parameterAddition issue tree = .ok a →
      fixMissingParameter analyze issue content = .ok (a.apply issue content) ∧
      ∃ name position l, Message.parameterName? issue.message = some name ∧
        Message.parameterPosition? issue.message = .ok position ∧
        tree.locate? issue.line SourceTree.bodyTolerance = some l ∧
        RecognisesSeamless a (parameterType l.declaration name (position.getD 0))) ∧
    (propertyAddition issue tree = .ok a → a.tag = "var" →
      fixMissingProperty analyze issue content = .ok (a.apply issue content) ∧
      ∃ name c p, Message.propertyName? issue.message = some name ∧
        tree.locateClass? issue.line = some c ∧ c.property? name = some p ∧
        RecognisesSeamless a (declaredType p)) ∧
    (mixinAddition issue content tree = .ok a →
      fixMixin analyze issue content = .ok (a.apply issue content) ∧
      ∃ c, tree.locateClass? issue.line = some c ∧
        mixinClass? (plainLines content) c (magicMethods.filterMap c.method?) = some a.value ∧
        (RecognisesOwn a ↔ IsClassName a.value)) := by
  refine ⟨fun done => ⟨?_, parameterAddition_recognises done⟩,
    fun done declared => ⟨?_, propertyAddition_recognises done declared⟩,
    fun done => ⟨?_, mixinAddition_recognises done⟩⟩
  · simp only [fixMissingParameter, withTree, read, done, annotate]
  · simp only [fixMissingProperty, withTree, read, done, annotate]
  · simp only [fixMixin, withTree, read, done, annotate]

/-- A function whose parameter has a union as its type, with spaces around the bar. -/
def spacedUnion : Text := "<?php\nfunction f(A | B $x) \x7b\x7d\n"

def unionTaking : Callable where
  name := "f"
  firstLine := 2
  lastLine := 2
  parameters := [⟨"x", some "A | B", 0⟩]

/-- A diagnostic about that parameter. -/
def unionUntyped (line : Int) : Issue :=
  ⟨"a.php", line, "Function f() has parameter $x with no type specified.", none, none⟩

/-- The same function with the tag twice above it. -/
def taggedTwice : Text :=
  "<?php\n/**\n * @param A | B $x\n * @param A | B $x\n */\nfunction f(A | B $x) \x7b\x7d\n"

/-- The tag with the union is not recognised, and the next run writes it again. -/
theorem copied_type_recognised_sample :
    Message.isMissingParameter (unionUntyped 2).message = true ∧
      (∃ a : Addition, a.value = "A | B $x" ∧
        fixMissingParameter Php.declarations? (unionUntyped 2) spacedUnion =
          .ok (a.apply (unionUntyped 2) spacedUnion) ∧ ¬RecognisesOwn a) ∧
      (do
        let first ← fixMissingParameter Php.declarations? (unionUntyped 2) spacedUnion
        let second ← fixMissingParameter Php.declarations? (unionUntyped 5) first.content
        return second.content) = .ok taggedTwice := by
  have name : Message.parameterName? (unionUntyped 2).message = some "x" := by decide +kernel
  have place : Message.parameterPosition? (unionUntyped 2).message = .ok none := by decide +kernel
  have tree : Php.declarations? spacedUnion = some ⟨none, [unionTaking], []⟩ := by decide +kernel
  have located : SourceTree.locate? ⟨none, [unionTaking], []⟩ (unionUntyped 2).line
      SourceTree.bodyTolerance = some ⟨unionTaking, none⟩ := by
    decide +kernel
  obtain ⟨a, value, done⟩ : ∃ a : Addition, a.value = "A | B $x" ∧
      parameterAddition (unionUntyped 2) ⟨none, [unionTaking], []⟩ = .ok a := by
    simp only [parameterAddition, name, place, located, require, bind, Except.bind,
      Outcome.mapError_ok]
    exact ⟨_, by decide +kernel, rfl⟩
  obtain ⟨fixed, own, position, l, named, placed, found, _, recognised⟩ :=
    (copied_type_recognised tree (unionUntyped 2) a).1 done
  obtain rfl : ("x" : Text) = own := Option.some.inj (name.symm.trans named)
  obtain rfl : none = position := Except.ok.inj (place.symm.trans placed)
  obtain rfl : ⟨unionTaking, none⟩ = l := Option.some.inj (located.symm.trans found)
  have type : parameterType unionTaking "x" 0 = "A | B" := by decide +kernel
  rw [Option.getD_none, type] at recognised
  have written : IsTypeText "A | B" :=
    ⟨⟨by decide, by decide⟩, by decide, by decide, by decide, by decide⟩
  refine ⟨by decide +kernel, ⟨a, value, fixed, fun recognises => ?_⟩, by decide +kernel⟩
  exact ((recognised written).mp recognises).2.inside "A" ' ' "| B" (by decide) (by decide)
    (by decide)

end DocRepair
