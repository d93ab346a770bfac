import DocRepair.Proofs.Docblock.CanonicalForm
import DocRepair.Proofs.Fixer.PlannedEdit
import DocRepair.Proofs.Php.Slices
import DocRepair.Proofs.Text.Bytes

/-!
What the fixers write has bytes in a file.

An edit consists of parts of the content, fixed texts, names cut out of a message, and types that
are declared or documented in the content. A name only holds word characters and backslashes, none
of which is a surrogate, whatever else stands in the message.
-/

namespace DocRepair

open Docblock Fixer

/-! ### Texts with bytes -/

theorem CodePoint.isWritable_ofChar (c : Char) : (ofChar c).IsWritable := by
  intro surrogate
  have valid := c.valid
  simp only [UInt32.isValidChar, Nat.isValidChar] at valid
  have number : (ofChar c).val = c.val.toNat := rfl
  simp only [isSurrogate, number, Bool.and_eq_true, decide_eq_true_eq] at surrogate
  omega

theorem CodePoint.isWritable_of_isWord {c : CodePoint} (word : c.isWord = true) :
    c.IsWritable := by
  have gap : ∀ range ∈ alphanumericRanges, range.2 < 0xD800 ∨ 0xDFFF < range.1 := by
    decide +kernel
  intro surrogate
  simp only [isSurrogate, Bool.and_eq_true, decide_eq_true_eq] at surrogate
  rw [isWord, isAlphanumeric, if_neg (by omega), Bool.or_eq_true, beq_iff_eq] at word
  rcases word with inside | rfl
  · obtain ⟨range, member, number⟩ := List.mem_flatMap.mp (RangeTable.mem_numbers inside)
    have apart := gap range member
    rw [List.mem_range'_1] at number
    omega
  · exact absurd surrogate (by decide)

namespace Text

@[simp] theorem hasBytes_nil : HasBytes [] := by simp [HasBytes]

@[simp] theorem hasBytes_append (s t : Text) :
    HasBytes (s ++ t) ↔ s.HasBytes ∧ t.HasBytes := by
  simp [HasBytes, or_imp, forall_and]

@[simp] theorem hasBytes_ofString (s : String) : HasBytes (s : Text) := by
  intro c member
  obtain ⟨d, _, rfl⟩ := List.mem_map.mp member
  exact CodePoint.isWritable_ofChar d

variable {s t : Text}

theorem HasBytes.of_subset (whole : t.HasBytes) (part : s ⊆ t) : s.HasBytes :=
  fun c member => whole c (part member)

theorem HasBytes.part (whole : t.HasBytes) (part : s <:+: t) : s.HasBytes :=
  whole.of_subset part.subset

theorem HasBytes.strip (whole : t.HasBytes) : t.strip.HasBytes := whole.part (strip_isInfix t)

theorem HasBytes.stripLeft (whole : t.HasBytes) : t.stripLeft.HasBytes :=
  whole.part (stripLeft_suffix t).isInfix

theorem HasBytes.stripRight (whole : t.HasBytes) : t.stripRight.HasBytes :=
  whole.part (stripRight_isPrefix t).isInfix

theorem HasBytes.indent (whole : t.HasBytes) : t.indent.HasBytes :=
  whole.part (List.takeWhile_prefix _).isInfix

theorem HasBytes.drop (whole : t.HasBytes) (n : Nat) : HasBytes (t.drop n) :=
  whole.part (List.drop_suffix n t).isInfix

theorem HasBytes.take (whole : t.HasBytes) (n : Nat) : HasBytes (t.take n) :=
  whole.part (List.take_prefix n t).isInfix

theorem HasBytes.dropWhile (whole : t.HasBytes) (p : CodePoint → Bool) :
    HasBytes (t.dropWhile p) :=
  whole.part (List.dropWhile_suffix p).isInfix

theorem hasBytes_join {separator : Text} (between : separator.HasBytes) {pieces : List Text}
    (all : ∀ piece ∈ pieces, piece.HasBytes) : (join separator pieces).HasBytes := by
  fun_induction join separator pieces with
  | case1 => exact hasBytes_nil
  | case2 piece => exact all piece (by simp)
  | case3 piece next rest ih =>
    obtain ⟨first, others⟩ := List.forall_mem_cons.mp all
    rw [hasBytes_append, hasBytes_append]
    exact ⟨⟨first, between⟩, ih others⟩

theorem hasBytes_unlines {pieces : List Text} (all : ∀ piece ∈ pieces, piece.HasBytes) :
    (unlines pieces).HasBytes :=
  hasBytes_join (hasBytes_ofString "\n") all

theorem HasBytes.lines (whole : t.HasBytes) : ∀ line ∈ t.lines, line.HasBytes :=
  fun _ member => whole.part (infix_of_mem_splitAt '\n' member)

theorem HasBytes.fileLines (whole : t.HasBytes) : ∀ line ∈ fileLines t, line.HasBytes := by
  intro line member
  have inside := isInfix_join_of_mem (LineEnding.detect t).text member
  rw [← LineEnding.join, join_fileLines] at inside
  exact whole.part inside

theorem hasBytes_replaceFrom {old new : Text} (fresh : new.HasBytes) (skip : Nat)
    (whole : t.HasBytes) : (replaceFrom old new skip t).HasBytes := by
  fun_induction replaceFrom old new skip t with
  | case1 => exact hasBytes_nil
  | case2 skip c rest ih => exact ih (List.forall_mem_cons.mp whole).2
  | case3 c rest _ ih =>
    rw [hasBytes_append]
    exact ⟨fresh, ih (List.forall_mem_cons.mp whole).2⟩
  | case4 c rest _ ih =>
    obtain ⟨first, others⟩ := List.forall_mem_cons.mp whole
    exact List.forall_mem_cons.mpr ⟨first, ih others⟩

theorem cutLast?_isInfix {part before after : Text} (cut : cutLast? t part = some (before, after)) :
    before <:+: t := by
  suffices front : before <+: t from front.isInfix
  fun_induction cutLast? t part generalizing before after with
  | case1 => cases cut; exact List.prefix_rfl
  | case2 => cases cut
  | case3 c rest inner outer found ih =>
    cases cut
    exact (List.prefix_cons_inj c).mpr (ih found)
  | case4 => cases cut; exact List.nil_prefix
  | case5 => cases cut

end Text

open Text

/-! ### Edits -/

namespace Docblock

theorem eq_append_of_splitAtCloser? {lines before after : List Text} {closing : Text}
    (split : splitAtCloser? lines = some (before, closing, after)) :
    lines = before ++ closing :: after := by
  fun_induction splitAtCloser? lines generalizing before closing after with
  | case1 => cases split
  | case2 line rest inner mark tail found ih =>
    cases split
    simp [ih found]
  | case3 => cases split; rfl
  | case4 => cases split

theorem hasBytes_tagText {tag value : Text} (tagged : tag.HasBytes) (valued : value.HasBytes) :
    (tagText tag value).HasBytes := by
  rw [tagText]
  split <;> simp [tagged, valued]

theorem hasBytes_closeWith {closing tagLine : Text} (closes : closing.HasBytes)
    (tagged : tagLine.HasBytes) : ∀ line ∈ closeWith closing tagLine, line.HasBytes := by
  have margin := closes.indent
  have body : (Text.stripRight (((closing.cutLast? closer).map (·.1)).getD [])).HasBytes := by
    apply HasBytes.stripRight
    cases cut : closing.cutLast? closer with
    | none => simp
    | some parts => exact closes.part (cutLast?_isInfix cut)
  have mark : opener.HasBytes := hasBytes_ofString "/**"
  rw [closeWith]
  split
  · simp [margin, tagged, closes]
  · simp only
    split
    · have content := (body.stripLeft.drop opener.length).strip
      split <;> simp [margin, tagged, content, mark]
    · split <;> simp [margin, tagged, body]

theorem hasBytes_addTag {t tag value : Text} (block : t.HasBytes) (tagged : tag.HasBytes)
    (valued : value.HasBytes) : (addTag t tag value).HasBytes := by
  have written := hasBytes_tagText tagged valued.strip
  rw [addTag]
  split
  · split
    · exact block
    · rename_i before closing after split
      have lines := block.lines
      rw [eq_append_of_splitAtCloser? split, List.forall_mem_append, List.forall_mem_cons] at lines
      apply hasBytes_unlines
      rw [List.forall_mem_append, List.forall_mem_append]
      exact ⟨⟨lines.1, hasBytes_closeWith lines.2.1 written⟩, lines.2.2⟩
  · simp [single, written]

theorem hasBytes_locateAt? {lines : List Text} {index : Nat} {block : Location}
    (all : ∀ line ∈ lines, line.HasBytes) (found : locateAt? lines index = some block) :
    block.text.HasBytes := by
  rw [(locateAt?_above found).text]
  apply hasBytes_unlines
  intro line member
  exact all line (List.mem_of_mem_take (List.mem_of_mem_drop member))

theorem tagLine?_isInfix {line tag value : Text} (read : tagLine? line = some (tag, value)) :
    value <:+: line := by
  match line, read with
  | c :: d :: rest, read =>
    have parts := spanTag_append (d :: rest)
    simp only [tagLine?] at read
    split at read
    · split at read
      · cases read
        exact List.nil_infix
      · rename_i name e after split
        rw [split] at parts
        split at read
        · cases read
          have tail : e :: after <:+ c :: d :: rest :=
            List.IsSuffix.trans ⟨_, parts⟩ (List.suffix_cons c (d :: rest))
          exact ((stripLeft_suffix _).trans tail).isInfix
        · cases read
    · cases read

theorem dropStar_isInfix (line : Text) : dropStar line <:+: line := by
  have inside := strip_isInfix line
  rw [dropStar]
  split
  · exact List.nil_infix
  · rename_i c rest read
    rw [read] at inside
    split
    · exact ((stripLeft_suffix rest).trans (List.suffix_cons c rest)).isInfix.trans inside
    · exact inside

theorem dropOpener_isInfix (t : Text) : dropOpener t <:+: t := by
  simp only [dropOpener]
  split
  · exact ((stripLeft_suffix _).trans
      ((List.drop_suffix _ _).trans (stripLeft_suffix t))).isInfix
  · exact List.infix_rfl

theorem dropCloser_isInfix (t : Text) : dropCloser t <:+: t := by
  simp only [dropCloser]
  split
  · exact ((stripRight_isPrefix _).trans
      ((List.take_prefix _ _).trans (stripRight_isPrefix t))).isInfix
  · exact List.infix_rfl

theorem contentLines_isInfix {t line : Text} (member : line ∈ contentLines t) : line <:+: t := by
  obtain ⟨whole, inside, rfl⟩ := List.mem_map.mp member
  exact (dropStar_isInfix whole).trans ((infix_of_mem_splitAt '\n' inside).trans
    ((dropCloser_isInfix _).trans (dropOpener_isInfix t)))

theorem entryType_isInfix {t tag : Text} {entry : Entry} (member : entry ∈ (parse t).listOf tag) :
    ∀ type ∈ entry.type, type <:+: t := by
  rw [listOf_parse] at member
  obtain ⟨pair, inside, rfl⟩ := List.mem_map.mp member
  obtain ⟨line, present, read⟩ := List.mem_filterMap.mp (List.mem_filter.mp inside).1
  obtain ⟨⟨name, value⟩, tagged, rfl⟩ := Option.map_eq_some_iff.mp read
  have content := (tagLine?_eq_some (contentLine_of_mem present) tagged).2
  have part := (tagLine?_isInfix tagged).trans (contentLines_isInfix present)
  intro type typed
  rcases Entry.ofValue_cases name content.toTrimmed with ⟨shaped, _⟩ | ⟨_, raw, _⟩
  · exact ((TagFamily.read?_within content.toTrimmed shaped).type type typed).trans part
  · simp [raw] at typed

end Docblock

theorem hasBytes_splice {lines new : List Text} (all : ∀ line ∈ lines, line.HasBytes)
    (fresh : ∀ line ∈ new, line.HasBytes) (cut resume : Nat) :
    ∀ line ∈ lines.take cut ++ new ++ lines.drop resume, line.HasBytes := by
  rw [List.forall_mem_append, List.forall_mem_append]
  exact ⟨⟨fun line member => all line (List.mem_of_mem_take member), fresh⟩,
    fun line member => all line (List.mem_of_mem_drop member)⟩

theorem hasBytes_getElem? {lines : List Text} (all : ∀ line ∈ lines, line.HasBytes) (i : Nat) :
    HasBytes ((lines[i]?).getD []) := by
  cases line : lines[i]? with
  | none => exact hasBytes_nil
  | some t => exact all t (List.mem_of_getElem? line)

theorem Addition.insertAt?_hasBytes {a : Addition} (tagged : a.tag.HasBytes)
    (valued : a.value.HasBytes) {lines edited : List Text} {index : Nat}
    (all : ∀ line ∈ lines, line.HasBytes) (done : a.insertAt? lines index = some edited) :
    ∀ line ∈ edited, line.HasBytes := by
  rw [insertAt?] at done
  split at done
  · rename_i block found
    split at done
    · cases done
    · cases done
      exact hasBytes_splice all
        (hasBytes_addTag (hasBytes_locateAt? all found) tagged valued).lines _ _
  · cases done
    refine hasBytes_splice all ?_ index index
    intro line member
    obtain ⟨plain, inside, rfl⟩ := List.mem_map.mp member
    rw [hasBytes_append]
    exact ⟨(hasBytes_getElem? all index).indent,
      (hasBytes_addTag hasBytes_nil tagged valued).lines plain inside⟩

theorem hasBytes_insertInline {lines : List Text} {block : Text}
    (all : ∀ line ∈ lines, line.HasBytes) (written : block.HasBytes) (index : Nat) :
    ∀ line ∈ insertInline lines index block, line.HasBytes := by
  rw [insertInline_eq]
  refine hasBytes_splice all (List.forall_mem_singleton.mpr ?_) _ _
  rw [hasBytes_append]
  exact ⟨(hasBytes_getElem? all index).indent, written⟩

/-- The texts that a plan brings into a file have bytes. -/
def Plan.Written : Plan → Prop
  | .tag a => a.tag.HasBytes ∧ a.value.HasBytes
  | .complete _ _ _ _ _ => True
  | .inline _ variableName => variableName.HasBytes

/-- A plan leaves a content with bytes, whether it succeeds or not. -/
theorem Plan.hasBytes_carryOut {analyze : Analyzer} {issue : Issue} {content : Text} {p : Plan}
    (placed : p.Placed analyze issue content) (written : p.Written) (whole : content.HasBytes)
    (success : (p.carryOut issue content).isSuccess = true) :
    (p.carryOut issue content).content.HasBytes := by
  obtain ⟨edited, leaves, joined⟩ := carryOut_leaves success
  have lines := whole.fileLines
  have ending : (LineEnding.detect content).text.HasBytes := by
    cases LineEnding.detect content <;> exact hasBytes_ofString _
  rw [joined]
  refine hasBytes_join ending ?_
  cases leaves with
  | tag _ done => exact Addition.insertAt?_hasBytes written.1 written.2 lines done
  | @complete _ _ _ block stop =>
    obtain ⟨index, found⟩ := exists_locateAt?_of_locate? placed.2
    have text := hasBytes_locateAt? lines found
    refine hasBytes_splice lines (HasBytes.lines ?_) _ _
    simp [text.take stop, text.drop stop]
  | inline _ =>
    have name : HasBytes _ := written
    exact hasBytes_insertInline lines (by simpa [inlineBlock] using name) _

/-! ### Names from messages -/

theorem hasBytes_of_word {name : Text} (word : ∀ c ∈ name, c.isWord = true) : name.HasBytes :=
  fun c member => CodePoint.isWritable_of_isWord (word c member)

theorem hasBytes_of_className {name : Text} (held : ∀ c ∈ name, classNameSet.holds c = true) :
    name.HasBytes := by
  intro c member
  have item := held c member
  simp only [CharSet.holds, classNameSet, SetItem.holds, CharClass.holds, List.any_cons,
    List.any_nil, Bool.or_false, Bool.bne_false, Bool.or_eq_true, beq_iff_eq, Bool.false_eq_true,
    if_false] at item
  rcases item with rfl | word
  · exact CodePoint.isWritable_ofChar '\\'
  · exact CodePoint.isWritable_of_isWord word

namespace Message

variable {message name : Text}

theorem hasBytes_propertyName? (found : propertyName? message = some name) : name.HasBytes :=
  hasBytes_of_word (firstName?_word (by decide) found)

theorem hasBytes_methodName? (found : methodName? message = some name) : name.HasBytes :=
  hasBytes_of_word (firstName?_word (by decide) found)

theorem hasBytes_parameterName? (found : parameterName? message = some name) : name.HasBytes :=
  hasBytes_of_word (firstName?_word (by decide) found)

theorem hasBytes_exceptionName? (found : exceptionName? message = some name) : name.HasBytes :=
  hasBytes_of_className (firstName?_within (by decide) found)

end Message

/-! ### Texts of declarations -/

theorem SourceTree.mem_of_locateClass? {tree : SourceTree} {line : Int} {c : ClassLike}
    (found : tree.locateClass? line = some c) : c ∈ tree.classes := by
  suffices all : ∀ best ∈ tree.locateClass? line, best ∈ tree.classes from all c found
  refine @List.foldlRecOn _ _ (fun best => ∀ c ∈ best, c ∈ tree.classes) _ _ none (by simp) ?_
  intro best known next member chosen choice
  have here := (List.mem_filter.mp member).1
  cases best with
  | none =>
    cases choice
    exact here
  | some b =>
    simp only at choice
    split at choice <;> cases choice
    · exact here
    · exact known _ rfl

namespace Fixer

section Declared

variable {content : Text} {tree : SourceTree} (cut : tree.CutFrom content)
  (whole : content.HasBytes)

include cut whole

theorem hasBytes_returnType {l : Located} (member : l ∈ tree.callables) :
    (returnType l.declaration).HasBytes := by
  rw [returnType]
  split
  · rename_i declared
    exact whole.part (cut.results l member _ declared)
  · split <;> exact hasBytes_ofString _

theorem hasBytes_parameterType {l : Located} (member : l ∈ tree.callables) (name : Text)
    (position : Nat) : (parameterType l.declaration name position).HasBytes := by
  rw [parameterType]
  split
  · rename_i own c rest place found
    have declared : ⟨own, some (c :: rest), place⟩ ∈ l.declaration.parameters := by
      cases named : l.declaration.parameter? name with
      | some p =>
        rw [named] at found
        exact List.mem_of_find?_eq_some (named.trans found)
      | none =>
        rw [named] at found
        exact List.mem_of_getElem? found
    exact whole.part ((cut.parameters l member _ declared).2 _ rfl)
  · exact hasBytes_ofString _

theorem hasBytes_declaredType {c : ClassLike} (member : c ∈ tree.classes) {p : Property}
    (declared : p ∈ c.properties) : (declaredType p).HasBytes := by
  rw [declaredType]
  split
  · rename_i typed
    exact whole.part (cut.properties c member p declared _ typed)
  · exact hasBytes_ofString _

omit cut whole in
theorem hasBytes_completedType (message : Text) {declared : Option Text}
    (typed : ∀ type ∈ declared, type.HasBytes) : (completedType message declared).HasBytes := by
  have mentioned : ((iterableType.find? 1 message).getD "iterable").HasBytes := by
    cases found : iterableType.find? 1 message with
    | none => exact hasBytes_ofString _
    | some name =>
      exact hasBytes_of_className (Pattern.find?_within (by decide) found)
  cases declared with
  | none => simp [completedType, mentioned]
  | some type =>
    have base : HasBytes (if bareTypes.contains (dropQuestionMarks type).lower then
        dropQuestionMarks type else (iterableType.find? 1 message).getD "iterable") := by
      split
      · exact (typed type rfl).dropWhile _
      · exact mentioned
    simp only [completedType]
    split <;> exact (hasBytes_append _ _).mpr ⟨base, hasBytes_ofString _⟩

theorem hasBytes_iterableParameter? {l : Located} (member : l ∈ tree.callables) {message : Text}
    {parameter : Text × Option Text}
    (found : iterableParameter? message l.declaration = some parameter) :
    parameter.1.HasBytes ∧ ∀ type ∈ parameter.2, type.HasBytes := by
  rw [iterableParameter?] at found
  split at found
  · rename_i name named
    cases found
    refine ⟨Message.hasBytes_parameterName? named, fun type typed => ?_⟩
    obtain ⟨p, declared, own⟩ := Option.bind_eq_some_iff.mp typed
    exact whole.part ((cut.parameters l member p (List.mem_of_find?_eq_some declared)).2 _ own)
  · obtain ⟨p, first, rfl⟩ := Option.map_eq_some_iff.mp found
    obtain ⟨name, types⟩ := cut.parameters l member p (List.mem_of_mem_head? first)
    exact ⟨whole.part name, fun type typed => whole.part (types type typed)⟩

/-! ### The class of a mixin -/

omit cut whole in
theorem eq_some_of_nonempty? {t : Option Text} {s : Text} (found : t.bind nonempty? = some s) :
    t = some s := by
  obtain ⟨u, rfl, same⟩ := Option.bind_eq_some_iff.mp found
  rw [nonempty?] at same
  split at same
  · cases same
  · cases same
    rfl

omit cut whole in
theorem hasBytes_entryType {lines : List Text} (all : ∀ line ∈ lines, line.HasBytes)
    {anchor : Int} {block : Location} (found : locate? lines anchor = some block) {tag : Text}
    {entry : Entry} (member : entry ∈ (parse block.text).listOf tag) {type : Text}
    (typed : entry.type.bind nonempty? = some type) : type.HasBytes := by
  obtain ⟨index, above⟩ := exists_locateAt?_of_locate? found
  exact (hasBytes_locateAt? all above).part
    (entryType_isInfix member type (eq_some_of_nonempty? typed))

theorem hasBytes_propertyClass? {c : ClassLike} (member : c ∈ tree.classes) {p : Property}
    (declared : p ∈ c.properties) {lines : List Text} (all : ∀ line ∈ lines, line.HasBytes)
    {type : Text} (found : propertyClass? lines p = some type) : type.HasBytes := by
  rw [propertyClass?] at found
  split at found
  · rename_i written typed
    cases found
    exact ((whole.part (cut.properties c member p declared _
      (eq_some_of_nonempty? typed))).dropWhile _).dropWhile _
  · obtain ⟨block, located, found⟩ := Option.bind_eq_some_iff.mp found
    obtain ⟨entry, first, found⟩ := Option.bind_eq_some_iff.mp found
    obtain ⟨documented, typed, found⟩ := Option.bind_eq_some_iff.mp found
    cases found
    exact (hasBytes_entryType all located (List.mem_of_mem_head? first) typed).dropWhile _

theorem hasBytes_firstClass? {c : ClassLike} (member : c ∈ tree.classes)
    {properties : List Property} (declared : ∀ p ∈ properties, p ∈ c.properties)
    {lines : List Text} (all : ∀ line ∈ lines, line.HasBytes) {type : Text}
    (found : firstClass? lines properties = some type) : type.HasBytes := by
  obtain ⟨p, inside, found⟩ := List.exists_of_findSome?_eq_some found
  exact hasBytes_propertyClass? cut whole member (declared p inside) all
    (eq_some_of_nonempty? found)

omit cut whole in
theorem hasBytes_documentedDelegate? {c : ClassLike} {lines : List Text}
    (all : ∀ line ∈ lines, line.HasBytes) {type : Text}
    (found : documentedDelegate? lines c = some type) : type.HasBytes := by
  obtain ⟨block, located, found⟩ := Option.bind_eq_some_iff.mp found
  obtain ⟨entry, member, found⟩ := List.exists_of_findSome?_eq_some found
  obtain ⟨name, _, found⟩ := Option.bind_eq_some_iff.mp found
  obtain ⟨documented, typed, found⟩ := Option.bind_eq_some_iff.mp found
  split at found
  · cases found
    rcases List.mem_append.mp member with here | here <;>
      exact (hasBytes_entryType all located here typed).dropWhile _
  · cases found

theorem hasBytes_mixinClass? {c : ClassLike} (member : c ∈ tree.classes) {lines : List Text}
    (all : ∀ line ∈ lines, line.HasBytes) {magic : List Callable} {type : Text}
    (found : mixinClass? lines c magic = some type) : type.HasBytes := by
  have used : ∀ p ∈ magic.filterMap fun m => m.mainDelegate?.bind c.property?,
      p ∈ c.properties := by
    intro p inside
    obtain ⟨m, _, named⟩ := List.mem_filterMap.mp inside
    obtain ⟨name, _, declared⟩ := Option.bind_eq_some_iff.mp named
    exact List.mem_of_find?_eq_some declared
  have telling : ∀ p ∈ c.properties.filter fun p => (delegateName.match? p.name).isSome,
      p ∈ c.properties := fun p inside => (List.mem_filter.mp inside).1
  simp only [mixinClass?, Option.orElse_eq_or, Option.or_eq_some_iff] at found
  rcases found with first | ⟨_, second | ⟨_, third⟩⟩
  · exact hasBytes_firstClass? cut whole member used all first
  · exact hasBytes_firstClass? cut whole member telling all second
  · exact hasBytes_documentedDelegate? all third

end Declared

/-! ### Plans -/

/-- A target only gives tags that have bytes. -/
def Writes (target : Issue → Text → SourceTree → Except Obstacle Addition) : Prop :=
  ∀ issue content tree a, tree.CutFrom content → content.HasBytes →
    target issue content tree = .ok a → a.tag.HasBytes ∧ a.value.HasBytes

theorem returnAddition_writes : Writes fun issue _ tree => returnAddition issue tree := by
  intro issue content tree a cut whole done
  obtain ⟨l, found, done⟩ := require_bind_ok done
  cases done
  exact ⟨hasBytes_ofString _, hasBytes_returnType cut whole (List.mem_of_find?_eq_some found)⟩

theorem parameterAddition_writes : Writes fun issue _ tree => parameterAddition issue tree := by
  intro issue content tree a cut whole done
  obtain ⟨name, named, done⟩ := require_bind_ok done
  obtain ⟨position, _, done⟩ := Outcome.bind_eq_ok_iff.mp done
  obtain ⟨l, found, done⟩ := require_bind_ok done
  cases done
  have type := hasBytes_parameterType cut whole (List.mem_of_find?_eq_some found) name
    (position.getD 0)
  simp [type, Message.hasBytes_parameterName? named]

theorem propertyAddition_writes : Writes fun issue _ tree => propertyAddition issue tree := by
  intro issue content tree a cut whole done
  obtain ⟨name, named, done⟩ := require_bind_ok done
  obtain ⟨c, found, done⟩ := require_bind_ok done
  have written := Message.hasBytes_propertyName? named
  simp only at done
  split at done
  · rename_i p declared
    cases done
    have type := hasBytes_declaredType cut whole (SourceTree.mem_of_locateClass? found)
      (List.mem_of_find?_eq_some declared)
    simp [type, written]
  · cases done
    simp [written]

theorem readonlyAddition_writes : Writes fun issue _ tree => readonlyAddition issue tree := by
  intro issue content tree a cut whole done
  obtain ⟨name, _, done⟩ := require_bind_ok done
  obtain ⟨p, found, done⟩ := require_bind_ok done
  cases done
  simp

theorem methodAddition_writes : Writes fun issue _ tree => methodAddition issue tree := by
  intro issue content tree a cut whole done
  obtain ⟨name, named, done⟩ := require_bind_ok done
  obtain ⟨c, found, done⟩ := require_bind_ok done
  cases done
  simp [Message.hasBytes_methodName? named]

theorem throwsAddition_writes : Writes fun issue _ tree => throwsAddition issue tree := by
  intro issue content tree a cut whole done
  obtain ⟨l, found, done⟩ := require_bind_ok done
  cases done
  refine ⟨hasBytes_ofString _, ?_⟩
  cases named : Message.exceptionName? issue.message with
  | none => exact hasBytes_ofString _
  | some name => exact Message.hasBytes_exceptionName? named

theorem callableAddition_writes : Writes fun issue _ tree => callableAddition issue tree := by
  intro issue content tree a cut whole done
  obtain ⟨name, named, done⟩ := require_bind_ok done
  obtain ⟨l, found, done⟩ := require_bind_ok done
  cases done
  cases l.isMethod <;> simp [Message.hasBytes_parameterName? named]

theorem mixinAddition_writes : Writes mixinAddition := by
  intro issue content tree a cut whole done
  obtain ⟨c, found, done⟩ := require_bind_ok done
  simp only at done
  split at done
  · cases done
  · obtain ⟨mixin, named, done⟩ := require_bind_ok done
    cases done
    have lines : ∀ line ∈ plainLines content, line.HasBytes :=
      (hasBytes_replaceFrom (hasBytes_ofString _) 0 whole).lines
    exact ⟨hasBytes_ofString _,
      hasBytes_mixinClass? cut whole (SourceTree.mem_of_locateClass? found) lines named⟩

theorem purityAddition_writes : Writes fun issue _ tree => purityAddition issue tree := by
  intro issue content tree a cut whole done
  obtain ⟨l, found, done⟩ := require_bind_ok done
  cases done
  refine ⟨?_, hasBytes_nil⟩
  rw [purityTag]
  split
  · exact hasBytes_ofString _
  · split <;> exact hasBytes_ofString _

structure ClassTag.Mentions (c : ClassTag) : Prop where
  tagged : c.tag.HasBytes
  grouped : c.mention.groupsIn 1 classNameSet = true

theorem sealedClass_mentions : sealedClass.Mentions := ⟨hasBytes_ofString _, by decide⟩

theorem requireExtends_mentions : requireExtends.Mentions :=
  ⟨hasBytes_ofString _, by decide⟩

theorem requireImplements_mentions : requireImplements.Mentions :=
  ⟨hasBytes_ofString _, by decide⟩

theorem classAddition_writes {c : ClassTag} (mentions : c.Mentions) :
    Writes fun issue _ tree => classAddition c issue tree := by
  intro issue content tree a cut whole done
  obtain ⟨name, named, done⟩ := require_bind_ok done
  obtain ⟨c, found, done⟩ := require_bind_ok done
  cases done
  exact ⟨mentions.tagged, hasBytes_of_className (Pattern.find?_within mentions.grouped named)⟩

theorem valueTypeTarget_writes {issue : Issue} {content : Text} {tree : SourceTree} {line : Int}
    {tag type : Text} {variableName : Option Text} (cut : tree.CutFrom content)
    (whole : content.HasBytes)
    (done : valueTypeTarget issue tree = .ok (line, tag, variableName, type)) :
    tag.HasBytes ∧ (∀ name ∈ variableName, name.HasBytes) ∧ type.HasBytes := by
  rw [valueTypeTarget] at done
  split at done
  · obtain ⟨name, named, done⟩ := require_bind_ok done
    obtain ⟨p, found, done⟩ := require_bind_ok done
    obtain ⟨c, owner, declared⟩ := Option.bind_eq_some_iff.mp found
    cases done
    refine ⟨hasBytes_ofString _, by simpa using Message.hasBytes_propertyName? named,
      hasBytes_completedType _ fun type typed => ?_⟩
    exact whole.part (cut.properties c (SourceTree.mem_of_locateClass? owner) p
      (List.mem_of_find?_eq_some declared) type typed)
  · obtain ⟨l, found, done⟩ := require_bind_ok done
    have member := List.mem_of_find?_eq_some found
    split at done
    · cases done
      exact ⟨hasBytes_ofString _, by simp,
        hasBytes_completedType _ fun type typed => whole.part (cut.results l member type typed)⟩
    · obtain ⟨parameter, chosen, done⟩ := require_bind_ok done
      obtain ⟨name, types⟩ := hasBytes_iterableParameter? cut whole member chosen
      cases done
      exact ⟨hasBytes_ofString _, by simpa using name, hasBytes_completedType _ types⟩

variable {analyze : Analyzer} {issue : Issue} {content : Text} {p : Plan}
  (reads : ∀ tree, analyze content = some tree → tree.CutFrom content) (whole : content.HasBytes)

include reads whole

theorem tagPlan_written {target : Issue → Text → SourceTree → Except Obstacle Addition}
    (writes : Writes target) (planned : tagPlan analyze target issue content = .ok p) :
    p.Written := by
  rw [tagPlan] at planned
  split at planned
  · cases planned
  · rename_i tree read
    cases done : target issue content tree with
    | error reason => simp [done, Except.map] at planned
    | ok a =>
      rw [done] at planned
      cases planned
      exact writes _ _ _ _ (reads tree read) whole done

theorem valueTypePlan_written (planned : valueTypePlan analyze issue content = .ok p) :
    p.Written := by
  rw [valueTypePlan] at planned
  split at planned
  · cases planned
  · rename_i tree read
    split at planned
    · cases planned
    · rename_i line tag variableName type done
      obtain ⟨tagged, named, typed⟩ := valueTypeTarget_writes (reads tree read) whole done
      have addition : (Plan.tag (valueTypeAddition line tag variableName type)).Written := by
        refine ⟨tagged, ?_⟩
        cases variableName with
        | none => exact typed
        | some name => simp [valueTypeAddition, typed, named name rfl]
      rw [valueTypePlanAt] at planned
      split at planned
      · cases planned
        exact addition
      · split at planned
        · cases planned
        · split at planned
          · cases planned
            exact trivial
          · cases planned
            exact addition

omit reads whole in
theorem inlinePlan_written (planned : inlinePlan issue content = .ok p) : p.Written := by
  rw [inlinePlan] at planned
  split at planned
  · cases planned
  · rename_i name found
    cases planned
    have word := Message.firstName?_word (by decide) found
    exact (hasBytes_append _ _).mpr ⟨hasBytes_ofString _, hasBytes_of_word word⟩

theorem planner_written {planner : Issue → Text → Except Obstacle Plan}
    (known : planner ∈ plans analyze) (planned : planner issue content = .ok p) : p.Written := by
  have tagged := fun {target} => @tagPlan_written analyze issue content p reads whole target
  revert planner
  simp only [plans, List.forall_mem_cons, List.not_mem_nil, false_imp_iff, implies_true, and_true]
  exact ⟨tagged returnAddition_writes, tagged parameterAddition_writes,
    tagged propertyAddition_writes, tagged readonlyAddition_writes, inlinePlan_written,
    tagged methodAddition_writes, tagged throwsAddition_writes, tagged callableAddition_writes,
    tagged mixinAddition_writes, tagged purityAddition_writes,
    tagged (classAddition_writes sealedClass_mentions),
    tagged (classAddition_writes requireExtends_mentions),
    tagged (classAddition_writes requireImplements_mentions), valueTypePlan_written reads whole⟩

end Fixer

end DocRepair
