import DocRepair.Proofs.Docblock.WrittenBlock

namespace DocRepair.Docblock

open Text

theorem ofTag_eq_method {tag : Text} (method : TagFamily.ofTag tag = .method) :
    tag = "method" := by
  have only : ∀ known ∈ knownTags, known.2 = .method → known.1 = ("method" : Text) := by
    decide +kernel
  rw [TagFamily.ofTag] at method
  cases found : knownTags.lookup tag with
  | none => simp [found] at method
  | some family =>
    obtain rfl : family = .method := by simpa [found] using method
    obtain ⟨before, after, split, _⟩ := List.lookup_eq_some_iff.mp found
    exact only (tag, .method) (by simp [split]) rfl

theorem keys_parse_nodup (t : Text) : (parse t).keys.Nodup := by
  rw [keys_parse]
  exact OrderedMap.withNew_nodup _ tagOrder_nodup

/-- The entries of a tag have been read from values on their lines. -/
theorem exists_value_of_mem_parse {t tag : Text} {entry : Entry}
    (member : entry ∈ (parse t).listOf tag) :
    IsTag tag ∧ ∃ value, ContentLine value ∧ entry = Entry.ofValue tag value := by
  rw [listOf_parse] at member
  obtain ⟨⟨name, found⟩, kept, rfl⟩ := List.mem_map.mp member
  obtain ⟨inside, same⟩ := List.mem_filter.mp kept
  obtain rfl : name = tag := by simpa using same
  obtain ⟨line, content, read⟩ := List.mem_filterMap.mp inside
  obtain ⟨⟨name', value⟩, tagged, paired⟩ := Option.map_eq_some_iff.mp read
  obtain ⟨rfl, rfl⟩ : name' = name ∧ Entry.ofValue name' value = found := by simpa using paired
  obtain ⟨isTag, clean⟩ := tagLine?_eq_some (contentLine_of_mem content) tagged
  exact ⟨isTag, value, clean, rfl⟩

/-! ### Values of a block -/

section

variable {annotations : Annotations}

theorem keys_values (annotations : Annotations) :
    (values annotations).keys = OrderedMap.keys (annotations.filter (!·.2.isEmpty)) := by
  simp [values, OrderedMap.keys, Function.comp_def]

theorem values_nodup (unique : annotations.keys.Nodup) : (values annotations).keys.Nodup := by
  rw [keys_values]
  exact unique.sublist (List.filter_sublist.map _)

theorem mem_values {tag : Text} {written : List Text} :
    (tag, written) ∈ values annotations ↔ ∃ entries, (tag, entries) ∈ annotations ∧
      entries ≠ [] ∧ entries.map (Entry.toValue tag) = written := by
  simp only [values, List.mem_map, List.mem_filter, Prod.exists, Prod.mk.injEq]
  constructor
  · rintro ⟨_, entries, ⟨member, some⟩, rfl, rfl⟩
    exact ⟨entries, member, by simpa using some, rfl⟩
  · rintro ⟨entries, member, some, rfl⟩
    exact ⟨tag, entries, ⟨member, by simpa using some⟩, rfl, rfl⟩

theorem listOf_values (unique : annotations.keys.Nodup) (tag : Text) :
    (values annotations).listOf tag = (annotations.listOf tag).map (Entry.toValue tag) := by
  by_cases empty : annotations.listOf tag = []
  · by_contra other
    have nonempty : (values annotations).listOf tag ≠ [] := by simpa [empty] using other
    obtain ⟨entries, member, some, _⟩ := mem_values.mp (OrderedMap.mem_of_listOf_ne_nil nonempty)
    exact some ((OrderedMap.listOf_of_mem unique _ member).symm.trans empty)
  · exact OrderedMap.listOf_of_mem (values_nodup unique) _
      (mem_values.mpr ⟨_, OrderedMap.mem_of_listOf_ne_nil empty, empty, rfl⟩)

theorem mem_keys_values (unique : annotations.keys.Nodup) {tag : Text} :
    tag ∈ (values annotations).keys ↔ annotations.listOf tag ≠ [] := by
  constructor
  · intro member
    obtain ⟨⟨_, written⟩, found, rfl⟩ := List.mem_map.mp member
    obtain ⟨entries, inside, some, _⟩ := mem_values.mp found
    rwa [OrderedMap.listOf_of_mem unique _ inside]
  · intro some
    exact OrderedMap.mem_keys_of_listOf_ne_nil (by simpa [listOf_values unique] using some)

end

/-! ### The canonical form -/

theorem listOf_values_parse (t tag : Text) :
    (values (parse t)).listOf tag = ((parse t).listOf tag).map (Entry.toValue tag) :=
  listOf_values (keys_parse_nodup t) tag

theorem writable_values_parse (t : Text) : Writable (values (parse t)) where
  unique := values_nodup (keys_parse_nodup t)
  tags := by
    intro tag member
    have some := (mem_keys_values (keys_parse_nodup t)).mp member
    obtain ⟨entry, inside⟩ := List.exists_mem_of_ne_nil _ some
    exact (exists_value_of_mem_parse inside).1
  values := by
    intro tag value member
    rw [listOf_values_parse] at member
    obtain ⟨entry, inside, rfl⟩ := List.mem_map.mp member
    obtain ⟨_, first, content, rfl⟩ := exists_value_of_mem_parse inside
    obtain ⟨trimmed, free⟩ := Entry.toValue_line tag content.toTrimmed content.free
    exact ⟨trimmed, free⟩

/-- Lines joined with single spaces begin as the first of them does and make up a line. -/
private theorem join_contentLines {pieces : List Text} (nonempty : pieces ≠ [])
    (content : ∀ piece ∈ pieces, ContentLine piece ∧ piece ≠ []) :
    ContentLine (join " " pieces) ∧ join " " pieces ≠ [] ∧
      ∃ first ∈ pieces, (join " " pieces).head? = first.head? := by
  induction pieces with
  | nil => exact absurd rfl nonempty
  | cons piece rest ih =>
    obtain ⟨clean, some⟩ := content piece (by simp)
    cases rest with
    | nil => exact ⟨clean, some, piece, by simp, rfl⟩
    | cons next others =>
      obtain ⟨later, more, _⟩ := ih (by simp) fun other member => content other (by simp [member])
      have space : ('\n' : CodePoint) ≠ (' ' : CodePoint) := by decide
      rw [join_cons _ _ (by simp), space_text, List.append_assoc, List.singleton_append,
        ← space_text]
      refine ⟨⟨trimmed_append some (by simp) clean.head (last_space more later.last), ?_⟩,
        by simp [some], piece, by simp, ?_⟩
      · simp [clean.free, later.free, space]
      · cases piece with
        | nil => exact absurd rfl some
        | cons c front => rfl

theorem describable_description? (t : Text) : ∀ text ∈ description? t, Describable text := by
  intro text found
  simp only [description?] at found
  split at found
  · cases found
  · rename_i some
    cases found
    have content : ∀ line ∈ ((contentLines t).takeWhile fun line => !line.opensWith '@').filter
        (!·.isEmpty), ContentLine line ∧ line ≠ [] ∧ line.opensWith '@' = false := by
      intro line member
      obtain ⟨before, proper⟩ := List.mem_filter.mp member
      have plain := List.mem_takeWhile_imp before
      exact ⟨contentLine_of_mem ((List.takeWhile_sublist _).subset before), by simpa using proper,
        by simpa using plain⟩
    obtain ⟨clean, nonempty, first, member, head⟩ := join_contentLines some
      fun line member => ⟨(content line member).1, (content line member).2.1⟩
    refine ⟨clean, nonempty, ?_⟩
    rw [opensWith, head]
    exact (content first member).2.2

/-- Unknown tags keep their order, because each of them has an entry. -/
theorem writingOrder_values_parse (t : Text) :
    writingOrder (values (parse t)) = (parse t).keys := by
  have unique := keys_parse_nodup t
  have order : (values (parse t)).keys =
      (parse t).keys.filter fun tag => !((parse t).listOf tag).isEmpty := by
    rw [keys_values]
    conv_lhs => rw [OrderedMap.eq_map_listOf unique]
    simp [OrderedMap.keys, List.filter_map, Function.comp_def]
  obtain ⟨fresh, split, new⟩ := OrderedMap.withNew_eq_append tagOrder
    (((contentLines t).filterMap entryOfLine?).map (·.1))
  rw [← keys_parse] at split
  have read : ∀ tag ∈ fresh, (parse t).listOf tag ≠ [] := by
    intro tag member
    obtain ⟨pair, inside, rfl⟩ := List.mem_map.mp (new tag member).2
    rw [listOf_parse]
    intro nothing
    have kept : pair.2 ∈ (((contentLines t).filterMap entryOfLine?).filter
        fun other => other.1 = pair.1).map (·.2) :=
      List.mem_map.mpr ⟨pair, List.mem_filter.mpr ⟨inside, by simp⟩, rfl⟩
    simp [nothing] at kept
  have known : (tagOrder.filter fun tag => !((parse t).listOf tag).isEmpty).filter
      (!tagOrder.contains ·) = [] := by
    apply List.filter_eq_nil_iff.mpr
    intro tag member
    simp [(List.mem_filter.mp member).1]
  have others : (fresh.filter fun tag => !((parse t).listOf tag).isEmpty).filter
      (!tagOrder.contains ·) = fresh := by
    rw [List.filter_eq_self.mpr, List.filter_eq_self.mpr]
    · intro tag member
      simpa using read tag member
    · intro tag member
      simpa using (new tag (List.mem_filter.mp member).1).1
  have keys : (values (parse t)).map (·.1) = (values (parse t)).keys := rfl
  rw [writingOrder, keys, order, split, List.filter_append, List.filter_append, known, others,
    List.nil_append]

theorem keys_parse_format (t : Text) : (parse (format t)).keys = (parse t).keys := by
  rw [format, keys_parse_create (writable_values_parse t) (describable_description? t),
    writingOrder_values_parse]
  intro tag member
  simpa [listOf_values_parse] using (mem_keys_values (keys_parse_nodup t)).mp member

theorem listOf_parse_format (t tag : Text) :
    (parse (format t)).listOf tag =
      (((parse t).listOf tag).map (Entry.toValue tag)).map (Entry.ofValue tag) := by
  rw [format, listOf_parse_create (writable_values_parse t) (describable_description? t),
    listOf_values_parse]

theorem description?_format (t : Text) : description? (format t) = description? t := by
  rw [format]
  exact description?_create (writable_values_parse t) (describable_description? t)

/-- An entry of any other tag than a method is read back as it was. -/
theorem listOf_parse_format_of_ne {t tag : Text} (other : tag ≠ "method") :
    (parse (format t)).listOf tag = (parse t).listOf tag := by
  rw [listOf_parse_format, List.map_map]
  conv_rhs => rw [← List.map_id ((parse t).listOf tag)]
  apply List.map_congr_left
  intro entry member
  obtain ⟨_, value, content, rfl⟩ := exists_value_of_mem_parse member
  exact Entry.ofValue_toValue (fun method => other (ofTag_eq_method method)) content.toTrimmed

/-- The canonical form of a block has the same entries for every tag but that of methods, as many
methods, the same tags in the same order and the same description; without methods it is its own
canonical form. -/
theorem format_lossless (t : Text) :
    (∀ tag : Text, tag ≠ "method" → (parse (format t)).listOf tag = (parse t).listOf tag) ∧
      ((parse (format t)).listOf "method").length = ((parse t).listOf "method").length ∧
      (parse (format t)).keys = (parse t).keys ∧
      description? (format t) = description? t ∧
      ((parse t).listOf "method" = [] → format (format t) = format t) := by
  have methods : ((parse (format t)).listOf "method").length =
      ((parse t).listOf "method").length := by
    simp [listOf_parse_format]
  refine ⟨fun tag other => listOf_parse_format_of_ne other, methods, keys_parse_format t,
    description?_format t, ?_⟩
  intro none
  have same : parse (format t) = parse t := by
    apply OrderedMap.ext (keys_parse_nodup _) (keys_parse_format t)
    intro tag
    by_cases method : tag = "method"
    · rw [method, none]
      simpa [none] using methods
    · exact listOf_parse_format_of_ne method
  rw [format, same, description?_format, ← format]

theorem format_lossless_sample :
    (parse "/** All of it. \n * @see x\n*@param  array<int, A> $rows  the rows */").listOf
        "method" = [] ∧
      format (format "/** All of it. \n * @see x\n*@param  array<int, A> $rows  the rows */") =
        format "/** All of it. \n * @see x\n*@param  array<int, A> $rows  the rows */" :=
  ⟨by decide +kernel, (format_lossless _).2.2.2.2 (by decide +kernel)⟩

end DocRepair.Docblock
