import DocRepair.Proofs.Docblock.WrittenBlock

/-!
Reading back a block that has been built.

Any text on one line may be a value or the description, marks and stars included: what is read is
what was put in, tag by tag, and nothing besides.
-/

namespace DocRepair.Docblock

open Text

/-! ### Names of tags -/

/-- A name that a tag can have: words with single hyphens between them. -/
def IsTagName (tag : Text) : Prop :=
  ∃ words : List Text, words ≠ [] ∧ (∀ word ∈ words, word ≠ [] ∧ ∀ c ∈ word, c.isWord = true) ∧
    tag = join "-" words

theorem spanTag_cons {c : CodePoint} (word : c.isWord = true) (t : Text) :
    spanTag (c :: t) = (c :: (spanTag t).1, (spanTag t).2) := by
  cases t with
  | nil => simp [spanTag, word]
  | cons d rest => simp [spanTag, word]

theorem spanTag_word {word : Text} (letters : ∀ c ∈ word, c.isWord = true) (t : Text) :
    spanTag (word ++ t) = (word ++ (spanTag t).1, (spanTag t).2) := by
  induction word with
  | nil => rfl
  | cons c rest ih =>
    rw [List.cons_append, spanTag_cons (letters c (by simp)),
      ih fun d member => letters d (by simp [member])]
    rfl

theorem spanTag_hyphen {t : Text} (word : t.head?.any CodePoint.isWord = true) :
    spanTag (('-' : CodePoint) :: t) = (('-' : CodePoint) :: (spanTag t).1, (spanTag t).2) := by
  have hyphen : ('-' : CodePoint).isWord = false := by decide
  cases t with
  | nil => simp at word
  | cons c rest =>
    have letter : c.isWord = true := by simpa using word
    simp [spanTag, hyphen, letter, spanTag_cons letter]

theorem IsTagName.isTag {tag : Text} (name : IsTagName tag) : IsTag tag := by
  obtain ⟨words, some, letters, rfl⟩ := name
  induction words with
  | nil => exact absurd rfl some
  | cons word rest ih =>
    obtain ⟨nonempty, letter⟩ := letters word (by simp)
    have head : ∀ t : Text, (word ++ t).head?.any CodePoint.isWord = true := by
      intro t
      obtain ⟨c, more, rfl⟩ := List.exists_cons_of_ne_nil nonempty
      simpa using letter c (by simp)
    cases rest with
    | nil =>
      have whole := spanTag_word letter []
      exact ⟨by simpa [join] using head [], by simpa [join, spanTag] using whole⟩
    | cons next others =>
      have later := ih (by simp) fun other member => letters other (by simp [member])
      have parts : join "-" (word :: next :: others) =
          word ++ ('-' : CodePoint) :: join "-" (next :: others) := by
        rw [join_cons _ _ (by simp), List.append_assoc]
        rfl
      rw [parts]
      refine ⟨head _, ?_⟩
      rw [spanTag_word letter, spanTag_hyphen later.head, later.whole]

/-! ### Blocks -/

/-- Tags with values, and perhaps a description, that can be put into a block: the names of the
tags differ, values and description stand on one line with no white space around them, and the
description does not look like a tag. -/
structure Buildable (annotations : OrderedMap Text (List Text)) (description : Option Text) :
    Prop where
  distinct : annotations.keys.Nodup
  names : ∀ tag ∈ annotations.keys, IsTagName tag
  values : ∀ pair ∈ annotations, ∀ value ∈ pair.2,
    value.strip = value ∧ ('\n' : CodePoint) ∉ value
  summary : ∀ text ∈ description,
    text ≠ [] ∧ text.strip = text ∧ ('\n' : CodePoint) ∉ text ∧ text.opensWith '@' = false

section

variable {annotations : OrderedMap Text (List Text)} {description : Option Text}

theorem trimmed_of_strip_eq {t : Text} (same : t.strip = t) : Trimmed t :=
  same ▸ trimmed_strip t

theorem Buildable.writable (buildable : Buildable annotations description) :
    Writable annotations where
  unique := buildable.distinct
  tags tag member := (buildable.names tag member).isTag
  values tag value member := by
    have pair := OrderedMap.mem_of_listOf_ne_nil (List.ne_nil_of_mem member)
    obtain ⟨stripped, free⟩ := buildable.values _ pair value member
    exact ⟨trimmed_of_strip_eq stripped, free⟩

theorem Buildable.describable (buildable : Buildable annotations description) :
    ∀ text ∈ description, Describable text := by
  intro text member
  obtain ⟨nonempty, stripped, free, plain⟩ := buildable.summary text member
  exact ⟨⟨trimmed_of_strip_eq stripped, free⟩, nonempty, plain⟩

end

/-- A block that has been built is read back: each tag has the entries that its family gives to its
values, in order; after the known tags come the other ones that have values, in the order of the
mapping, and no further tags; and the description is the one that was put in. -/
theorem built_block_read_back {annotations : OrderedMap Text (List Text)}
    {description : Option Text} (buildable : Buildable annotations description) :
    (∀ tag, (parse (create annotations description)).listOf tag =
      (annotations.listOf tag).map (Entry.ofValue tag)) ∧
    (parse (create annotations description)).keys =
      tagOrder ++ annotations.keys.filter
        (fun tag => tag ∉ tagOrder ∧ annotations.listOf tag ≠ []) ∧
    description? (create annotations description) = description := by
  have writable := buildable.writable
  have describable := buildable.describable
  refine ⟨listOf_parse_create writable describable, ?_, description?_create writable describable⟩
  rw [keys_parse_create_eq writable describable, List.filter_filter]
  congr 2
  funext tag
  rw [Bool.eq_iff_iff]
  simp [and_comm]

/-- Marks in values and in the description do no harm, and a tag without values leaves no trace. -/
theorem built_block_read_back_sample :
    let annotations : OrderedMap Text (List Text) :=
      [("see", ["*/"]), ("to-do", []), ("return", ["int /** x", ""])]
    let text := create annotations (some "* All of it. */")
    (parse text).listOf "return" =
        [{ type := some "int", description := some "/** x" }, { raw := some [] }] ∧
      (parse text).keys = tagOrder ++ [("see" : Text)] ∧
      description? text = some "* All of it. */" := by
  intro annotations text
  have buildable : Buildable annotations (some "* All of it. */") := by
    refine ⟨by decide, ?_, by decide, by decide⟩
    have words : ∀ words ∈ ([["see"], ["to", "do"], ["return"]] : List (List Text)), words ≠ [] ∧
        ∀ word ∈ words, word ≠ [] ∧ ∀ c ∈ word, c.isWord = true := by decide
    intro tag member
    obtain rfl | rfl | rfl : tag = "see" ∨ tag = "to-do" ∨ tag = "return" := by
      simpa [annotations, OrderedMap.keys] using member
    · exact ⟨["see"], (words _ (by simp)).1, (words _ (by simp)).2, rfl⟩
    · exact ⟨["to", "do"], (words _ (by simp)).1, (words _ (by simp)).2, rfl⟩
    · exact ⟨["return"], (words _ (by simp)).1, (words _ (by simp)).2, rfl⟩
  obtain ⟨entries, keys, summary⟩ := built_block_read_back buildable
  exact ⟨(entries "return").trans (by decide), keys.trans (by decide), summary⟩

end DocRepair.Docblock
