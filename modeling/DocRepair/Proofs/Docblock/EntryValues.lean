import DocRepair.Docblock.Entry
import DocRepair.Proofs.Docblock.TypeSplit
import DocRepair.Proofs.Text.Pieces

/-!
Reading the value of a tag and writing it back.

A value that is written from an entry reads as that entry again in every family but that of
methods, and in every family it is a trimmed text without line feeds if the first value was one.
-/

namespace DocRepair.Docblock

open Text

theorem space_text : (" " : Text) = [(' ' : CodePoint)] := by simp [ofString]

/-! ### Parts with single spaces between them -/

private def present (parts : List (Option Text)) : List Text :=
  (parts.filterMap id).filter (!·.isEmpty)

private theorem joinParts_eq (parts : List (Option Text)) :
    joinParts parts = join [(' ' : CodePoint)] (present parts) := by
  rw [joinParts, space_text, present]

private theorem present_cons {part : Text} (parts : List (Option Text)) (nonempty : part ≠ []) :
    present (some part :: parts) = part :: present parts := by
  simp [present, nonempty]

theorem joinParts_single {part : Text} (nonempty : part ≠ []) : joinParts [some part] = part := by
  rw [joinParts_eq, present_cons [] nonempty]
  rfl

theorem joinParts_cons {part : Text} {parts : List (Option Text)} (nonempty : part ≠ [])
    (more : joinParts parts ≠ []) :
    joinParts (some part :: parts) = part ++ (' ' : CodePoint) :: joinParts parts := by
  have others : present parts ≠ [] := by
    intro none
    rw [joinParts_eq, none] at more
    exact more rfl
  rw [joinParts_eq, present_cons parts nonempty, join_cons _ _ others, joinParts_eq]
  simp

theorem not_mem_join {c : CodePoint} {separator : Text} {pieces : List Text}
    (outside : c ∉ separator) (free : ∀ piece ∈ pieces, c ∉ piece) :
    c ∉ join separator pieces := by
  fun_induction join separator pieces with
  | case1 => simp
  | case2 piece => exact free piece (by simp)
  | case3 piece next rest ih =>
    have later := ih fun other member => free other (List.mem_cons_of_mem _ member)
    simp [free piece (by simp), outside, later]

theorem not_mem_joinParts {parts : List (Option Text)}
    (free : ∀ part ∈ parts, ∀ t ∈ part, ('\n' : CodePoint) ∉ t) :
    ('\n' : CodePoint) ∉ joinParts parts := by
  rw [joinParts_eq]
  apply not_mem_join (by decide)
  intro piece member
  obtain ⟨part, found, same⟩ := List.mem_filterMap.mp (List.mem_filter.mp member).1
  exact free part found piece same

theorem last_joinParts_cons {part : Text} {parts : List (Option Text)} (nonempty : part ≠ [])
    (more : joinParts parts ≠ []) (last : ∀ c ∈ (joinParts parts).getLast?, c.isBlank = false) :
    ∀ c ∈ (joinParts (some part :: parts)).getLast?, c.isBlank = false := by
  rw [joinParts_cons nonempty more]
  exact last_append (by simp) (last_space more last)

theorem trimmed_joinParts_cons {part : Text} {parts : List (Option Text)} (nonempty : part ≠ [])
    (head : ∀ c ∈ part.head?, c.isBlank = false) (more : joinParts parts ≠ [])
    (last : ∀ c ∈ (joinParts parts).getLast?, c.isBlank = false) :
    Trimmed (joinParts (some part :: parts)) := by
  rw [joinParts_cons nonempty more]
  exact trimmed_append nonempty (by simp) head (last_space more last)

theorem joinParts_ne_nil {part : Text} {parts : List (Option Text)} (nonempty : part ≠ []) :
    joinParts (some part :: parts) ≠ [] := by
  rw [joinParts_eq, present_cons parts nonempty]
  cases present parts with
  | nil => exact nonempty
  | cons next others => simp [join]

/-! ### Runs and variables at the start of a value -/

section

variable {p : CodePoint → Bool} {line run name : Text} {text : Option Text}

/-- A run is not empty; either it is the whole line, or white space and a text follow it. -/
theorem leadingRun?_cases (last : ∀ c ∈ line.getLast?, c.isBlank = false)
    (read : leadingRun? p line = some (run, text)) :
    run ≠ [] ∧ (∀ c ∈ run, p c = true) ∧ run <+: line ∧
      ((text = none ∧ line = run) ∨ ∃ t, text = some t ∧ t ≠ [] ∧ Trimmed t ∧ t <:+ line) := by
  have parts := List.takeWhile_append_dropWhile (p := p) (l := line)
  have inside : ∀ c ∈ line.takeWhile p, p c = true := fun c member => List.mem_takeWhile_imp member
  have front := List.takeWhile_prefix (l := line) p
  have back := List.dropWhile_suffix (l := line) p
  cases before : line.takeWhile p with
  | nil => simp [leadingRun?, before] at read
  | cons c more =>
    rw [before] at inside front
    cases after : line.dropWhile p with
    | nil =>
      obtain ⟨rfl, rfl⟩ : c :: more = run ∧ none = text := by
        simpa [leadingRun?, before, after] using read
      exact ⟨by simp, inside, front, .inl ⟨rfl, by simpa [before, after] using parts.symm⟩⟩
    | cons b rest =>
      obtain ⟨blank, rfl, rfl⟩ :
          b.isBlank = true ∧ c :: more = run ∧ some (stripLeft (b :: rest)) = text := by
        simpa [leadingRun?, before, after] using read
      rw [after] at back
      have kept := last_of_suffix back last
      exact ⟨by simp, inside, front, .inr ⟨_, rfl, stripLeft_ne_nil (by simp) kept,
        trimmed_stripLeft kept, (stripLeft_suffix _).trans back⟩⟩

/-- A run with the text behind it, in normal form, reads the same. -/
theorem leadingRun?_write (outside : p ' ' = false)
    (last : ∀ c ∈ line.getLast?, c.isBlank = false)
    (read : leadingRun? p line = some (run, text)) :
    run <+: joinParts [some run, text] ∧
      (∀ c ∈ (joinParts [some run, text]).getLast?, c.isBlank = false) ∧
      leadingRun? p (joinParts [some run, text]) = some (run, text) := by
  obtain ⟨nonempty, inside, front, ⟨rfl, rfl⟩ | ⟨t, rfl, proper, clean, _⟩⟩ :=
    leadingRun?_cases last read
  · have same : joinParts [some line, none] = line := joinParts_single nonempty
    rw [same]
    exact ⟨List.prefix_refl _, last, read⟩
  · have same : joinParts [some run, some t] = run ++ (' ' : CodePoint) :: t := by
      rw [joinParts_cons nonempty (by rwa [joinParts_single proper]), joinParts_single proper]
    have before : (run ++ (' ' : CodePoint) :: t).takeWhile p = run := by
      rw [List.takeWhile_append_of_pos inside]
      simp [outside]
    have after : (run ++ (' ' : CodePoint) :: t).dropWhile p = (' ' : CodePoint) :: t := by
      rw [List.dropWhile_append_of_pos inside]
      simp [outside]
    have blank : (' ' : CodePoint).isBlank = true := by decide
    rw [same]
    refine ⟨List.prefix_append _ _, last_append (by simp) (last_space proper clean.last), ?_⟩
    cases run with
    | nil => exact absurd rfl nonempty
    | cons d more =>
      simp only [leadingRun?, before, after, blank, ↓reduceIte, stripLeft_space clean.head]

theorem leadingVariable?_eq_some (read : leadingVariable? line = some (name, text)) :
    ∃ rest run, line = ('$' : CodePoint) :: rest ∧ name = ('$' : CodePoint) :: run ∧
      leadingRun? CodePoint.isWord rest = some (run, text) := by
  cases line with
  | nil => simp [leadingVariable?] at read
  | cons c rest =>
    simp only [leadingVariable?] at read
    split at read
    · rename_i dollar
      obtain ⟨⟨run, found⟩, inner, same⟩ := Option.map_eq_some_iff.mp read
      obtain ⟨rfl, rfl⟩ : c :: run = name ∧ found = text := by simpa using same
      exact ⟨rest, run, by rw [dollar], by rw [dollar], inner⟩
    · cases read

/-- A variable with the text behind it, in normal form, is a trimmed text that reads the same. -/
theorem leadingVariable?_write (trimmed : Trimmed line)
    (read : leadingVariable? line = some (name, text)) :
    Trimmed (joinParts [some name, text]) ∧ joinParts [some name, text] ≠ [] ∧
      leadingVariable? (joinParts [some name, text]) = some (name, text) := by
  obtain ⟨rest, run, rfl, rfl, inner⟩ := leadingVariable?_eq_some read
  have last := last_of_suffix (List.suffix_cons _ _) trimmed.last
  obtain ⟨nonempty, _, _, shape⟩ := leadingRun?_cases last inner
  obtain ⟨_, kept, again⟩ := leadingRun?_write (by decide) last inner
  have same : joinParts [some (('$' : CodePoint) :: run), text] =
      ('$' : CodePoint) :: joinParts [some run, text] := by
    rcases shape with ⟨rfl, _⟩ | ⟨t, rfl, proper, _⟩
    · exact (joinParts_single (by simp)).trans (congrArg _ (joinParts_single nonempty).symm)
    · have more : joinParts [some t] ≠ [] := by rwa [joinParts_single proper]
      rw [joinParts_cons (by simp) more, joinParts_cons nonempty more]
      rfl
  have proper : joinParts [some run, text] ≠ [] := by
    intro empty
    simp [empty, leadingRun?] at again
  rw [same]
  refine ⟨trimmed_append (s := [('$' : CodePoint)]) (by simp) proper ?_ kept, by simp, ?_⟩
  · simp only [List.head?_cons, Option.mem_def, Option.some.injEq]
    rintro c rfl
    decide
  · simp [leadingVariable?, again]

end

/-! ### Families -/

section

variable {value type rest name : Text} {text : Option Text} {entry : Entry}

theorem orElseText_some {t : Text} (nonempty : t ≠ []) (fallback : Text) :
    orElseText (some t) fallback = t := by
  simp [orElseText, nonempty?, nonempty]

theorem splitType?_rest_trimmed (split : splitType? value = some (type, rest)) : Trimmed rest := by
  obtain ⟨_, _, rfl, _⟩ := splitType?_eq_some_iff.mp split
  exact trimmed_strip _

theorem splitType?_type_ne_nil (split : splitType? value = some (type, rest)) : type ≠ [] :=
  (splitType?_eq_some_iff.mp split).2.2.2.1

/-- A type and the text behind it, in normal form, are a trimmed text that splits the same. -/
private theorem splitType?_described (trimmed : Trimmed value)
    (split : splitType? value = some (type, rest)) :
    Trimmed (joinParts [some type, nonempty? rest]) ∧
      splitType? (joinParts [some type, nonempty? rest]) = some (type, rest) := by
  have proper := splitType?_type_ne_nil split
  by_cases empty : rest = []
  · subst empty
    have whole : type = value := (splitType?_alone split).trans trimmed.strip_eq
    have same : joinParts [some type, nonempty? []] = type := joinParts_single proper
    rw [same]
    exact ⟨whole ▸ trimmed, whole ▸ split⟩
  · have alone : joinParts [some rest] = rest := joinParts_single empty
    rw [nonempty?, if_neg (by simpa using empty),
      joinParts_cons proper (by rwa [alone]), alone]
    exact splitType?_write split empty empty (splitType?_rest_trimmed split)

/-- A type and a variable, in normal form, are a trimmed text that splits the same. -/
private theorem splitType?_named (split : splitType? value = some (type, rest))
    (read : leadingVariable? rest = some (name, text)) :
    Trimmed (joinParts [some type, some name, text]) ∧
      splitType? (joinParts [some type, some name, text]) =
        some (type, joinParts [some name, text]) := by
  have proper := splitType?_type_ne_nil split
  obtain ⟨trimmed, nonempty, _⟩ := leadingVariable?_write (splitType?_rest_trimmed split) read
  have more : rest ≠ [] := by
    rintro rfl
    simp [leadingVariable?] at read
  rw [joinParts_cons proper nonempty]
  exact splitType?_write split more nonempty trimmed

private theorem trimmed_leadingRun? {p : CodePoint → Bool} (outside : p ' ' = false)
    (trimmed : Trimmed value) (read : leadingRun? p value = some (name, text)) :
    Trimmed (joinParts [some name, text]) := by
  obtain ⟨nonempty, _, front, _⟩ := leadingRun?_cases trimmed.last read
  obtain ⟨⟨back, same⟩, last, _⟩ := leadingRun?_write outside trimmed.last read
  have head := head_of_isPrefix front trimmed.head
  refine ⟨?_, last⟩
  cases name with
  | nil => exact absurd rfl nonempty
  | cons c more => simpa [← same] using head

/-- What it means that a family reads an entry from a value. -/
inductive TagFamily.Reads (value : Text) : TagFamily → Entry → Prop
  | named {family : TagFamily} {type rest name : Text} {text : Option Text}
      (kind : family = .parameter ∨ family = .variable)
      (split : splitType? value = some (type, rest))
      (read : leadingVariable? rest = some (name, text)) :
      Reads value family { type := some type, name := some name, description := text }
  | described {family : TagFamily} {type rest : Text}
      (kind : family = .result ∨ family = .variable ∧ leadingVariable? rest = none)
      (split : splitType? value = some (type, rest)) :
      Reads value family { type := some type, description := nonempty? rest }
  | run {family : TagFamily} {p : CodePoint → Bool} {name : Text} {text : Option Text}
      (kind : family = .className ∧ p = isClassChar ∨ family = .classList ∧ p = isClassListChar)
      (read : leadingRun? p value = some (name, text)) :
      Reads value family { name := some name, description := text }
  | callable {name : Text} {text : Option Text}
      (read : leadingVariable? value = some (name, text)) :
      Reads value .callable { name := some name, description := text }
  | flag : Reads value .flag {}
  | method {entry : Entry} (read : readMethod? value = some entry) : Reads value .method entry

theorem TagFamily.read?_eq_some_iff {family : TagFamily} :
    family.read? value = some entry ↔ Reads value family entry := by
  constructor
  · intro read
    cases family <;>
      simp only [TagFamily.read?, Option.bind_eq_bind, Option.bind_eq_some_iff, Prod.exists,
        Option.pure_def, Option.some.injEq, reduceCtorEq] at read
    case parameter =>
      obtain ⟨type, rest, split, name, text, found, rfl⟩ := read
      exact .named (.inl rfl) split found
    case «variable» =>
      obtain ⟨type, rest, split, found⟩ := read
      cases named : leadingVariable? rest with
      | some pair =>
        obtain rfl : _ = entry := by simpa [named] using found
        exact .named (.inr rfl) split named
      | none =>
        obtain rfl : _ = entry := by simpa [named] using found
        exact .described (.inr ⟨rfl, named⟩) split
    case result =>
      obtain ⟨type, rest, split, rfl⟩ := read
      exact .described (.inl rfl) split
    case method => exact .method read
    case className =>
      obtain ⟨name, text, found, rfl⟩ := read
      exact .run (.inl ⟨rfl, rfl⟩) found
    case classList =>
      obtain ⟨name, text, found, rfl⟩ := read
      exact .run (.inr ⟨rfl, rfl⟩) found
    case flag => exact read ▸ .flag
    case callable =>
      obtain ⟨name, text, found, rfl⟩ := read
      exact .callable found
  · intro reads
    cases reads with
    | named kind split read => rcases kind with rfl | rfl <;> simp [TagFamily.read?, split, read]
    | described kind split =>
      rcases kind with rfl | ⟨rfl, plain⟩
      · simp [TagFamily.read?, split]
      · simp [TagFamily.read?, split, plain]
    | run kind read =>
      rcases kind with ⟨rfl, rfl⟩ | ⟨rfl, rfl⟩ <;> simp [TagFamily.read?, read]
    | callable read => simp [TagFamily.read?, read]
    | flag => rfl
    | method read => exact read

/-- Every family but that of methods reads back what it writes. -/
theorem TagFamily.read?_write {family : TagFamily} (other : family ≠ .method)
    (trimmed : Trimmed value) (read : family.read? value = some entry) :
    Trimmed (family.write entry) ∧ family.read? (family.write entry) = some entry := by
  rw [read?_eq_some_iff] at read ⊢
  cases read with
  | named kind split read =>
    obtain ⟨_, _, again⟩ := leadingVariable?_write (splitType?_rest_trimmed split) read
    obtain ⟨clean, same⟩ := splitType?_named split read
    have written := orElseText_some (splitType?_type_ne_nil split)
    rcases kind with rfl | rfl <;> simp only [TagFamily.write, written]
    · exact ⟨clean, .named (.inl rfl) same again⟩
    · exact ⟨clean, .named (.inr rfl) same again⟩
  | described kind split =>
    obtain ⟨clean, same⟩ := splitType?_described trimmed split
    have written := orElseText_some (splitType?_type_ne_nil split)
    rcases kind with rfl | ⟨rfl, plain⟩ <;> simp only [TagFamily.write, written]
    · exact ⟨clean, .described (.inl rfl) same⟩
    · exact ⟨clean, .described (.inr ⟨rfl, plain⟩) same⟩
  | run kind read =>
    rcases kind with ⟨rfl, rfl⟩ | ⟨rfl, rfl⟩
    · obtain ⟨_, _, again⟩ := leadingRun?_write (by decide) trimmed.last read
      exact ⟨trimmed_leadingRun? (by decide) trimmed read, .run (.inl ⟨rfl, rfl⟩) again⟩
    · obtain ⟨_, _, again⟩ := leadingRun?_write (by decide) trimmed.last read
      exact ⟨trimmed_leadingRun? (by decide) trimmed read, .run (.inr ⟨rfl, rfl⟩) again⟩
  | callable read =>
    obtain ⟨clean, _, again⟩ := leadingVariable?_write trimmed read
    exact ⟨clean, .callable again⟩
  | flag => exact ⟨trimmed_nil, .flag⟩
  | method => exact absurd rfl other

/-! ### Parts of a value -/

/-- An entry that has been read by its shape: every text of it is a part of the value. -/
structure Entry.Within (entry : Entry) (value : Text) : Prop where
  raw : entry.raw = none
  type : ∀ t ∈ entry.type, t <:+: value
  name : ∀ t ∈ entry.name, t <:+: value
  description : ∀ t ∈ entry.description, t <:+: value
  parameters : ∀ t ∈ entry.parameters, t <:+: value

private theorem leadingRun?_within {p : CodePoint → Bool} (trimmed : Trimmed value)
    (read : leadingRun? p value = some (name, text)) :
    name <:+: value ∧ ∀ t ∈ text, t <:+: value := by
  obtain ⟨_, _, front, ⟨rfl, _⟩ | ⟨t, rfl, _, _, back⟩⟩ := leadingRun?_cases trimmed.last read
  · exact ⟨front.isInfix, by simp⟩
  · exact ⟨front.isInfix, by simpa using back.isInfix⟩

private theorem leadingVariable?_within (trimmed : Trimmed value)
    (read : leadingVariable? value = some (name, text)) :
    name <:+: value ∧ ∀ t ∈ text, t <:+: value := by
  obtain ⟨rest, run, rfl, rfl, inner⟩ := leadingVariable?_eq_some read
  have tail := List.suffix_cons ('$' : CodePoint) rest
  obtain ⟨_, _, ⟨back, same⟩, shape⟩ := leadingRun?_cases (last_of_suffix tail trimmed.last) inner
  refine ⟨⟨[], back, by simp [← same]⟩, ?_⟩
  rcases shape with ⟨rfl, _⟩ | ⟨t, rfl, _, _, later⟩
  · simp
  · simpa using (later.trans tail).isInfix

theorem bracket_text : (")" : Text) = [(')' : CodePoint)] := by simp [ofString]

/-- What it means that a signature is read: a name, perhaps white space, parameters up to the first
bracket that closes them, and nothing more or a description after white space. -/
theorem exists_signature_parts {found : Signature} (read : signature? value = some found) :
    ∃ gap after,
      value = found.name ++ gap ++ ('(' : CodePoint) ::
        (found.parameters ++ (')' : CodePoint) :: after) ∧
      found.name ≠ [] ∧ (∀ c ∈ found.name, c.isWord = true) ∧
      (')' : CodePoint) ∉ found.parameters ∧
      ∀ t ∈ found.description, t = stripLeft after ∧ after ≠ [] := by
  have word : ∀ c ∈ value.takeWhile CodePoint.isWord, c.isWord = true :=
    fun c member => List.mem_takeWhile_imp member
  have front : value = value.takeWhile CodePoint.isWord ++
      (indent (value.dropWhile CodePoint.isWord) ++
        stripLeft (value.dropWhile CodePoint.isWord)) := by
    rw [indent, stripLeft, List.takeWhile_append_dropWhile, List.takeWhile_append_dropWhile]
  simp only [signature?, bracket_text] at read
  split at read
  · cases read
  · cases read
  · rename_i c rest back named
    rw [back] at front
    have proper : value.takeWhile CodePoint.isWord ≠ [] := named
    split at read
    · rename_i opens
      subst opens
      split at read
      · cases read
      · rename_i parameters cut
        obtain ⟨rfl, closed⟩ := cut?_eq_some_iff.mp cut
        cases read
        exact ⟨_, [], by simpa using front, proper, word, closed, by simp⟩
      · rename_i parameters d more cut
        obtain ⟨rfl, closed⟩ := cut?_eq_some_iff.mp cut
        split at read
        · cases read
          exact ⟨_, d :: more, by simpa using front, proper, word, closed, by simp⟩
        · cases read
    · cases read

/-- The parts of a signature are parts of its line, and a description is neither empty nor ends
in white space. -/
private theorem signature?_cases {found : Signature} (trimmed : Trimmed value)
    (read : signature? value = some found) :
    found.name <:+: value ∧ found.parameters <:+: value ∧
      ∀ t ∈ found.description, t <:+: value ∧ t ≠ [] ∧ ∀ c ∈ t.getLast?, c.isBlank = false := by
  obtain ⟨gap, after, parts, _, _, _, described⟩ := exists_signature_parts read
  have named : found.name <+: value :=
    ⟨gap ++ ('(' : CodePoint) :: (found.parameters ++ (')' : CodePoint) :: after), by simp [parts]⟩
  have listed : found.parameters <:+: value :=
    ⟨found.name ++ gap ++ [('(' : CodePoint)], (')' : CodePoint) :: after, by simp [parts]⟩
  refine ⟨named.isInfix, listed, fun t member => ?_⟩
  obtain ⟨rfl, some⟩ := described t member
  have ends : after <:+ value :=
    ⟨found.name ++ gap ++ ('(' : CodePoint) :: (found.parameters ++ [(')' : CodePoint)]),
      by simp [parts]⟩
  have last := last_of_suffix ends trimmed.last
  exact ⟨((stripLeft_suffix _).trans ends).isInfix, stripLeft_ne_nil some last,
    last_of_suffix (stripLeft_suffix _) last⟩

/-- The parts of a method are parts of the line it is read from, and written in normal form they
are a trimmed text. -/
private theorem methodBody?_cases {isStatic : Bool} {body : Text}
    (read : methodBody? isStatic body = some entry) :
    entry.Within body ∧ Trimmed (TagFamily.method.write entry) := by
  simp only [methodBody?, Option.bind_eq_bind, Option.bind_eq_some_iff, Prod.exists,
    Option.pure_def, Option.some.injEq] at read
  obtain ⟨type, rest, split, found, signature, rfl⟩ := read
  obtain ⟨named, listed, described⟩ := signature?_cases (splitType?_rest_trimmed split) signature
  have proper := splitType?_type_ne_nil split
  have front := splitType?_type_isPrefix split
  have outer := (splitType?_rest_isInfix split).trans (strip_isInfix body)
  refine ⟨⟨rfl, ?_, ?_, ?_, ?_⟩, ?_⟩
  · simpa using front.isInfix.trans (strip_isInfix body)
  · simpa using named.trans outer
  · intro t member
    exact (described t member).1.trans outer
  · simpa using listed.trans outer
  · have closing : (")" : Text) = [(')' : CodePoint)] := by simp [ofString]
    let line : Text := found.name ++ "(" ++ found.parameters ++ ")"
    have nonempty : line ≠ [] := by simp [line, closing]
    have ends : ∀ c ∈ line.getLast?, c.isBlank = false := by
      simp only [line, closing]
      exact last_append (by simp) (by decide)
    have signed : ∀ c ∈ (joinParts [some line, found.description]).getLast?,
        c.isBlank = false := by
      cases text : found.description with
      | none => rwa [show joinParts [some line, none] = line from joinParts_single nonempty]
      | some t =>
        obtain ⟨_, proper, last⟩ := described t text
        have alone : joinParts [some t] = t := joinParts_single proper
        exact last_joinParts_cons nonempty (by rwa [alone]) (by rwa [alone])
    have typed : Trimmed (joinParts [some type, some line, found.description]) :=
      trimmed_joinParts_cons proper (head_of_isPrefix front (trimmed_strip body).head)
        (joinParts_ne_nil nonempty) signed
    simp only [TagFamily.write, orElseText_some proper, Option.getD_some]
    cases isStatic with
    | false => exact typed
    | true =>
      have solid : ('s' : CodePoint).isBlank = false := by decide
      exact trimmed_joinParts_cons (by simp) (by simp [ofString, solid])
        (joinParts_ne_nil proper) typed.last

theorem Entry.Within.mono {longer : Text} (within : entry.Within value)
    (inside : value <:+: longer) : entry.Within longer where
  raw := within.raw
  type t member := (within.type t member).trans inside
  name t member := (within.name t member).trans inside
  description t member := (within.description t member).trans inside
  parameters t member := (within.parameters t member).trans inside

private theorem readMethod?_cases (read : readMethod? value = some entry) :
    entry.Within value ∧ Trimmed (TagFamily.method.write entry) := by
  simp only [readMethod?] at read
  split at read
  · cases marked : methodBody? true (stripLeft (value.drop staticMark.length)) with
    | some found =>
      obtain rfl : found = entry := by simpa [marked] using read
      obtain ⟨within, trimmed⟩ := methodBody?_cases marked
      have tail := (stripLeft_suffix _).trans (List.drop_suffix staticMark.length value)
      exact ⟨within.mono tail.isInfix, trimmed⟩
    | none => exact methodBody?_cases (by simpa [marked] using read)
  · exact methodBody?_cases read

theorem splitType?_within (split : splitType? value = some (type, rest)) :
    type <:+: value ∧ rest <:+: value :=
  ⟨(splitType?_type_isPrefix split).isInfix.trans (strip_isInfix value),
    (splitType?_rest_isInfix split).trans (strip_isInfix value)⟩

private theorem nonempty?_within (inside : rest <:+: value) :
    ∀ t ∈ nonempty? rest, t <:+: value := by
  intro t member
  rw [nonempty?] at member
  split at member
  · cases member
  · cases member
    exact inside

theorem TagFamily.read?_within {family : TagFamily} (trimmed : Trimmed value)
    (read : family.read? value = some entry) : entry.Within value := by
  rw [read?_eq_some_iff] at read
  cases read with
  | named kind split read =>
    obtain ⟨typed, inside⟩ := splitType?_within split
    obtain ⟨here, later⟩ := leadingVariable?_within (splitType?_rest_trimmed split) read
    exact ⟨rfl, by simpa using typed, by simpa using here.trans inside,
      fun t member => (later t member).trans inside, by simp⟩
  | described kind split =>
    obtain ⟨typed, inside⟩ := splitType?_within split
    exact ⟨rfl, by simpa using typed, by simp, nonempty?_within inside, by simp⟩
  | run kind read =>
    obtain ⟨here, later⟩ := leadingRun?_within trimmed read
    exact ⟨rfl, by simp, by simpa using here, later, by simp⟩
  | callable read =>
    obtain ⟨here, later⟩ := leadingVariable?_within trimmed read
    exact ⟨rfl, by simp, by simpa using here, later, by simp⟩
  | flag => exact ⟨rfl, by simp, by simp, by simp, by simp⟩
  | method read => exact (readMethod?_cases read).1

theorem TagFamily.trimmed_write {family : TagFamily} (trimmed : Trimmed value)
    (read : family.read? value = some entry) : Trimmed (family.write entry) := by
  by_cases method : family = .method
  · subst method
    exact (readMethod?_cases read).2
  · exact (TagFamily.read?_write method trimmed read).1

theorem not_mem_of_isInfix {c : CodePoint} {part : Text} (inside : part <:+: value)
    (free : c ∉ value) : c ∉ part :=
  fun member => free (inside.subset member)

private theorem not_mem_orElseText {c : CodePoint} {t : Option Text} {fallback : Text}
    (free : ∀ s ∈ t, c ∉ s) (outside : c ∉ fallback) : c ∉ orElseText t fallback := by
  cases t with
  | none => exact outside
  | some s =>
    by_cases empty : s = []
    · simpa [orElseText, nonempty?, empty] using outside
    · rw [orElseText_some empty]
      exact free s rfl

private theorem not_mem_getD {c : CodePoint} {t : Option Text} (free : ∀ s ∈ t, c ∉ s) :
    c ∉ t.getD [] := by
  cases t with
  | none => simp
  | some s => exact free s rfl

theorem TagFamily.write_free {family : TagFamily} (within : entry.Within value)
    (free : ('\n' : CodePoint) ∉ value) : ('\n' : CodePoint) ∉ family.write entry := by
  have type : ∀ t ∈ entry.type, ('\n' : CodePoint) ∉ t :=
    fun t member => not_mem_of_isInfix (within.type t member) free
  have name : ∀ t ∈ entry.name, ('\n' : CodePoint) ∉ t :=
    fun t member => not_mem_of_isInfix (within.name t member) free
  have description : ∀ t ∈ entry.description, ('\n' : CodePoint) ∉ t :=
    fun t member => not_mem_of_isInfix (within.description t member) free
  have parameters : ∀ t ∈ entry.parameters, ('\n' : CodePoint) ∉ t :=
    fun t member => not_mem_of_isInfix (within.parameters t member) free
  have typed : ('\n' : CodePoint) ∉ orElseText entry.type "mixed" :=
    not_mem_orElseText type (by simp)
  cases family <;> simp only [TagFamily.write]
  case flag | other => simp
  case parameter | «variable» | result | className | classList | callable =>
    apply not_mem_joinParts
    simp_all
  case method =>
    have result : ('\n' : CodePoint) ∉ orElseText entry.type "void" :=
      not_mem_orElseText type (by simp)
    have mark : ('\n' : CodePoint) ∉ ("static" : Text) := by simp
    have opening : ('\n' : CodePoint) ∉ ("(" : Text) := by simp
    have closing : ('\n' : CodePoint) ∉ (")" : Text) := by simp
    apply not_mem_joinParts
    cases entry.isStatic <;>
      simpa [result, mark, opening, closing, not_mem_getD name, not_mem_getD parameters]
        using description

/-! ### Entries -/

theorem Entry.ofValue_cases (tag : Text) (trimmed : Trimmed value) :
    (TagFamily.ofTag tag).read? value = some (Entry.ofValue tag value) ∧
        (Entry.ofValue tag value).toValue tag =
          (TagFamily.ofTag tag).write (Entry.ofValue tag value) ∨
      (TagFamily.ofTag tag).read? value = none ∧ Entry.ofValue tag value = { raw := some value } ∧
        (Entry.ofValue tag value).toValue tag = value := by
  cases read : (TagFamily.ofTag tag).read? value with
  | none => exact .inr (by simp [Entry.ofValue, Entry.toValue, read])
  | some entry =>
    have same : Entry.ofValue tag value = entry := by simp [Entry.ofValue, read]
    refine .inl ⟨by rw [same], ?_⟩
    rw [same, Entry.toValue, (TagFamily.read?_within trimmed read).raw]
    rfl

/-- The value written from an entry is trimmed and stands on one line, as the first value did. -/
theorem Entry.toValue_line (tag : Text) (trimmed : Trimmed value)
    (free : ('\n' : CodePoint) ∉ value) :
    Trimmed ((Entry.ofValue tag value).toValue tag) ∧
      ('\n' : CodePoint) ∉ (Entry.ofValue tag value).toValue tag := by
  rcases ofValue_cases tag trimmed with ⟨read, same⟩ | ⟨_, _, same⟩
  · rw [same]
    exact ⟨TagFamily.trimmed_write trimmed read,
      TagFamily.write_free (TagFamily.read?_within trimmed read) free⟩
  · rw [same]
    exact ⟨trimmed, free⟩

/-- The entry of a written value is the entry it was written from, methods apart. -/
theorem Entry.ofValue_toValue {tag : Text} (other : TagFamily.ofTag tag ≠ .method)
    (trimmed : Trimmed value) :
    Entry.ofValue tag ((Entry.ofValue tag value).toValue tag) = Entry.ofValue tag value := by
  rcases ofValue_cases tag trimmed with ⟨read, same⟩ | ⟨_, _, same⟩
  · rw [same]
    have again := (TagFamily.read?_write other trimmed read).2
    rw [Entry.ofValue, again, Option.getD_some]
  · rw [same]

end

end DocRepair.Docblock
