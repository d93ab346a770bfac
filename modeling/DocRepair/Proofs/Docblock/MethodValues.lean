import DocRepair.Proofs.Docblock.EntryValues
import DocRepair.Proofs.Docblock.WholeType

/-!
Reading a method back from the value that is written from it.

The type, the signature and the description are read back as they were. Only the word `static` can
change its part: where it is the type, the written value may read as a mark in front of another
type, because the white space that kept name and parameters apart is gone.
-/

namespace DocRepair.Docblock

open Text

/-! ### Signatures -/

/-- The parts of a signature as they are read: a name, parameters up to the first bracket that
closes them, and perhaps a text. -/
structure Signature.Proper (s : Signature) : Prop where
  nonempty : s.name ≠ []
  word : ∀ c ∈ s.name, c.isWord = true
  closed : (')' : CodePoint) ∉ s.parameters
  described : ∀ t ∈ s.description, t ≠ [] ∧ Trimmed t

/-- The name and the parameters of a signature, without white space between them. -/
def Signature.call (s : Signature) : Text :=
  s.name ++ "(" ++ s.parameters ++ ")"

def Signature.text (s : Signature) : Text :=
  joinParts [some s.call, s.description]

variable {value line : Text} {found : Signature} {entry : Entry}

theorem signature?_proper (trimmed : Trimmed line) (read : signature? line = some found) :
    found.Proper := by
  obtain ⟨gap, after, parts, nonempty, word, closed, described⟩ := exists_signature_parts read
  refine ⟨nonempty, word, closed, fun t member => ?_⟩
  obtain ⟨rfl, some⟩ := described t member
  have ends : after <:+ line :=
    ⟨found.name ++ gap ++ ('(' : CodePoint) :: (found.parameters ++ [(')' : CodePoint)]),
      by simp [parts]⟩
  have last := last_of_suffix ends trimmed.last
  exact ⟨stripLeft_ne_nil some last, trimmed_stripLeft last⟩

/-- The end of a written signature: nothing, or a description after a space. -/
def Signature.tail (s : Signature) : Text :=
  s.description.elim [] ((' ' : CodePoint) :: ·)

namespace Signature.Proper

variable (proper : found.Proper)

include proper

theorem text_eq : found.text =
    found.name ++ ('(' : CodePoint) :: (found.parameters ++ (')' : CodePoint) :: found.tail) := by
  have call : found.call =
      found.name ++ ('(' : CodePoint) :: (found.parameters ++ [(')' : CodePoint)]) := by
    simp [Signature.call, ofString]
  have nonempty : found.call ≠ [] := by simp [call]
  rw [text, tail]
  cases described : found.description with
  | none => exact (joinParts_single nonempty).trans (by simp [call])
  | some t =>
    have some := (proper.described t described).1
    rw [joinParts_cons nonempty (by rwa [joinParts_single some]), joinParts_single some, call]
    simp

theorem trimmed_text : Trimmed found.text := by
  have head : ∀ c ∈ found.name.head?, c.isBlank = false := fun c member =>
    CodePoint.isBlank_of_isWord (proper.word c (List.mem_of_head? member))
  have bracket : ∀ c ∈ [(')' : CodePoint)].getLast?, c.isBlank = false := by decide
  have last : ∀ c ∈ ((')' : CodePoint) :: found.tail).getLast?, c.isBlank = false := by
    rw [tail]
    cases described : found.description with
    | none => exact bracket
    | some t =>
      obtain ⟨some, trimmed⟩ := proper.described t described
      exact last_append (s := [(')' : CodePoint)]) (by simp) (last_space some trimmed.last)
  rw [proper.text_eq]
  refine trimmed_append proper.nonempty (by simp) head ?_
  exact last_append (s := ('(' : CodePoint) :: found.parameters) (by simp) last

theorem text_ne_nil : found.text ≠ [] := by
  simp [proper.text_eq]

theorem signature?_text : signature? found.text = some found := by
  have bracket : ('(' : CodePoint).isWord = false := by decide
  have solid : ('(' : CodePoint).isBlank = false := by decide
  have before : found.text.takeWhile CodePoint.isWord = found.name := by
    rw [proper.text_eq, List.takeWhile_append_of_pos proper.word]
    simp [bracket]
  have after : stripLeft (found.text.dropWhile CodePoint.isWord) =
      ('(' : CodePoint) :: (found.parameters ++ (')' : CodePoint) :: found.tail) := by
    rw [proper.text_eq, List.dropWhile_append_of_pos proper.word]
    simp [bracket, stripLeft, solid]
  have cut : cut? (found.parameters ++ (')' : CodePoint) :: found.tail) [(')' : CodePoint)] =
      some (found.parameters, found.tail) := cut?_eq_some_iff.mpr ⟨rfl, proper.closed⟩
  rw [signature?, before, after, bracket_text]
  obtain ⟨name, parameters, description⟩ := found
  obtain ⟨c, rest, rfl⟩ := List.exists_cons_of_ne_nil proper.nonempty
  simp only [cut, ↓reduceIte]
  cases description with
  | none => rfl
  | some t =>
    have space : (' ' : CodePoint).isBlank = true := by decide
    have head := (proper.described t rfl).2.head
    simp only [tail, Option.elim_some, space, ↓reduceIte, stripLeft_space head]

end Signature.Proper

/-! ### Methods -/

/-- The name of a method with its parameters. -/
def Entry.call (entry : Entry) : Text :=
  entry.name.getD [] ++ "(" ++ entry.parameters.getD [] ++ ")"

/-- What is written of a method behind its type. -/
def Entry.signed (entry : Entry) : Text :=
  joinParts [some entry.call, entry.description]

theorem methodBody?_eq_some_iff {isStatic : Bool} :
    methodBody? isStatic value = some entry ↔
      ∃ type rest found, splitType? value = some (type, rest) ∧ signature? rest = some found ∧
        entry = ⟨some type, some found.name, found.description, none, isStatic,
          some found.parameters⟩ := by
  simp only [methodBody?, Option.bind_eq_bind, Option.bind_eq_some_iff, Prod.exists,
    Option.pure_def, Option.some.injEq]
  constructor
  · rintro ⟨type, rest, split, found, read, rfl⟩
    exact ⟨type, rest, found, split, read, rfl⟩
  · rintro ⟨type, rest, found, split, read, rfl⟩
    exact ⟨type, rest, split, found, read, rfl⟩

theorem methodBody?_isSome_iff {isStatic : Bool} :
    (methodBody? isStatic value).isSome = true ↔
      ∃ type rest, splitType? value = some (type, rest) ∧ (signature? rest).isSome = true := by
  simp only [Option.isSome_iff_exists, methodBody?_eq_some_iff]
  constructor
  · rintro ⟨_, type, rest, found, split, read, _⟩
    exact ⟨type, rest, split, found, read⟩
  · rintro ⟨type, rest, split, found, read⟩
    exact ⟨_, type, rest, found, split, read, rfl⟩

/-- A method behind its type, in normal form, is read as it was. -/
theorem methodBody?_write {isStatic : Bool} (read : methodBody? isStatic value = some entry) :
    ∃ type, entry.type = some type ∧ entry.isStatic = isStatic ∧ type ≠ [] ∧
      entry.signed ≠ [] ∧ Trimmed entry.signed ∧
      Trimmed (type ++ (' ' : CodePoint) :: entry.signed) ∧
      methodBody? isStatic (type ++ (' ' : CodePoint) :: entry.signed) = some entry := by
  obtain ⟨type, rest, found, split, signature, rfl⟩ := methodBody?_eq_some_iff.mp read
  have proper := signature?_proper (splitType?_rest_trimmed split) signature
  have more : rest ≠ [] := by
    rintro rfl
    simp [signature?] at signature
  obtain ⟨trimmed, again⟩ :=
    splitType?_write split more proper.text_ne_nil proper.trimmed_text
  exact ⟨type, rfl, rfl, splitType?_type_ne_nil split, proper.text_ne_nil, proper.trimmed_text,
    trimmed, methodBody?_eq_some_iff.mpr
      ⟨type, found.text, found, again, proper.signature?_text, rfl⟩⟩

theorem staticMark_append (body : Text) :
    staticMark ++ body = ("static" : Text) ++ (' ' : CodePoint) :: body := by
  simp [staticMark, ofString]

theorem readMethod?_marked {body : Text} (head : ∀ c ∈ body.head?, c.isBlank = false) :
    readMethod? (staticMark ++ body) =
      (methodBody? true body).orElse fun _ => methodBody? false (staticMark ++ body) := by
  have marked : startsWith (staticMark ++ body) staticMark = true :=
    List.isPrefixOf_iff_prefix.mpr (List.prefix_append _ _)
  rw [readMethod?, if_pos marked, List.drop_left, stripLeft_eq_self head]

/-- A written method, its type and the signature apart. -/
theorem write_method {type : Text} (typed : entry.type = some type) (nonempty : type ≠ [])
    (more : entry.signed ≠ []) :
    TagFamily.method.write entry =
      (if entry.isStatic then staticMark else []) ++
        (type ++ (' ' : CodePoint) :: entry.signed) := by
  have body : joinParts [some type, some entry.call, entry.description] =
      type ++ (' ' : CodePoint) :: entry.signed := joinParts_cons nonempty more
  rw [TagFamily.write, typed, orElseText_some nonempty, ← Entry.call]
  cases entry.isStatic with
  | false => exact body
  | true =>
    have mark : ("static" : Text) ≠ [] := by simp
    simp only [↓reduceIte]
    rw [joinParts_cons mark (by rw [body]; simp [nonempty]), body, staticMark_append]

/-- Read without it, a value that begins with the mark has the type `static`. -/
theorem type_of_staticMark {type rest : Text} (trimmed : Trimmed value)
    (marked : value.startsWith staticMark = true) (split : splitType? value = some (type, rest)) :
    type = "static" := by
  obtain ⟨body, parts⟩ := List.isPrefixOf_iff_prefix.mp marked
  have seamless : IsSeamless 0 ("static" : Text) := isSeamless_of_solid (by decide)
  have scanned := (scanType_eq_iff (by decide) 0 body).mpr seamless
  obtain ⟨_, same, _⟩ := splitType?_eq_some_iff.mp split
  rw [trimmed.strip_eq, ← parts, staticMark_append, scanned] at same
  exact same.symm

/-- A method whose type is `static` and whose signature, as it is written, could be that of a static
method itself. -/
def Entry.ReadsAsMark (entry : Entry) : Prop :=
  entry.isStatic = false ∧ entry.type = some "static" ∧
    (methodBody? true entry.signed).isSome = true

instance (entry : Entry) : Decidable entry.ReadsAsMark :=
  inferInstanceAs (Decidable (_ ∧ _ ∧ _))

theorem exists_methodBody? (read : readMethod? value = some entry) :
    ∃ body, methodBody? entry.isStatic body = some entry := by
  have flagged : ∀ {isStatic body}, methodBody? isStatic body = some entry →
      methodBody? entry.isStatic body = some entry := by
    intro isStatic body plain
    obtain ⟨_, _, _, _, _, rfl⟩ := methodBody?_eq_some_iff.mp plain
    exact plain
  simp only [readMethod?] at read
  split at read
  · cases marked : methodBody? true (stripLeft (value.drop staticMark.length)) with
    | some other =>
      obtain rfl : other = entry := by simpa [marked] using read
      exact ⟨_, flagged marked⟩
    | none => exact ⟨_, flagged (by simpa [marked] using read)⟩
  · exact ⟨_, flagged read⟩

theorem readMethod?_of_readsAsMark (reads : entry.ReadsAsMark) {body : Text}
    (read : methodBody? entry.isStatic body = some entry) :
    ∃ other, readMethod? (TagFamily.method.write entry) = some other ∧ other.isStatic = true := by
  obtain ⟨plain, typed, some⟩ := reads
  obtain ⟨type, same, _, nonempty, more, signed, _⟩ := methodBody?_write read
  obtain rfl : type = "static" := Option.some.inj (same.symm.trans typed)
  obtain ⟨other, marked⟩ := Option.isSome_iff_exists.mp some
  have written : TagFamily.method.write entry = staticMark ++ entry.signed := by
    rw [write_method typed nonempty more, plain, staticMark_append]
    rfl
  refine ⟨other, ?_, ?_⟩
  · rw [written, readMethod?_marked signed.head, marked]
    rfl
  · obtain ⟨_, _, _, _, _, rfl⟩ := methodBody?_eq_some_iff.mp marked
    rfl

theorem readMethod?_write (other : ¬entry.ReadsAsMark) {body : Text}
    (read : methodBody? entry.isStatic body = some entry) :
    readMethod? (TagFamily.method.write entry) = some entry := by
  obtain ⟨type, typed, _, nonempty, more, signed, trimmed, again⟩ := methodBody?_write read
  rw [write_method typed nonempty more]
  cases isStatic : entry.isStatic with
  | true =>
    rw [isStatic] at again
    rw [if_pos rfl, readMethod?_marked trimmed.head, again]
    rfl
  | false =>
    rw [isStatic] at again
    rw [if_neg (by simp), List.nil_append]
    by_cases marked : startsWith (type ++ (' ' : CodePoint) :: entry.signed) staticMark = true
    · obtain ⟨_, _, _, split, _, same⟩ := methodBody?_eq_some_iff.mp again
      obtain rfl : type = "static" := by
        have first := type_of_staticMark trimmed marked split
        rw [same, first] at typed
        exact (Option.some.inj typed).symm
      have unmarked : methodBody? true entry.signed = none := by
        by_contra found
        exact other ⟨isStatic, typed, Option.isSome_iff_ne_none.mpr found⟩
      rw [← staticMark_append] at again ⊢
      rw [readMethod?_marked signed.head, unmarked, again]
      rfl
    · rw [readMethod?, if_neg marked, again]

/-! ### When the word is a mark -/

/-- One step of a scan that does not end there. The step only follows a colon if it is one, or white
space behind one. -/
theorem scanType_step (depth : Nat) (afterColon : Bool) {c : CodePoint} (rest : Text)
    (inside : c.isBlank = true → depth ≠ 0) :
    ∃ colon,
      scanType depth afterColon (c :: rest) = (scanType (nextDepth depth c) colon rest).cons c ∧
      (colon = true → c = (':' : CodePoint) ∨ c.isBlank = true) := by
  by_cases blank : c.isBlank = true
  · obtain ⟨opens, closes⟩ := not_bracket_of_isBlank blank
    have within : depth ≠ 0 := inside blank
    refine ⟨afterColon, ?_, fun _ => .inr blank⟩
    simp [scanType, nextDepth, opens, closes, blank, within]
  · by_cases opens : opensBracket c = true
    · exact ⟨false, by simp [scanType, nextDepth, opens], by simp⟩
    · by_cases closes : closesBracket c = true ∧ depth ≠ 0
      · exact ⟨false, by simp [scanType, nextDepth, opens, closes], by simp⟩
      · refine ⟨c == (':' : CodePoint), ?_, fun colon => .inl (by simpa using colon)⟩
        have same : nextDepth depth c = depth := by
          by_cases closing : closesBracket c = true
          · have outside : depth = 0 := by simpa [closing] using closes
            simp [nextDepth, opens, outside]
          · simp [nextDepth, opens, closing]
        have stays : (closesBracket c && depth != 0) = false := by
          simpa [Bool.and_eq_true] using closes
        rw [same]
        simp [scanType, opens, stays, blank]

theorem scanType_closed {t next : Text} (after : ∀ c ∈ next.head?, c.isBlank = true) (depth : Nat)
    (afterColon : Bool) (seamless : IsSeamless depth (t ++ [(')' : CodePoint)])) :
    scanType depth afterColon (t ++ (')' : CodePoint) :: next) =
      ⟨t ++ [(')' : CodePoint)], next, 0⟩ := by
  induction t generalizing depth afterColon with
  | nil =>
    obtain ⟨inside, closed⟩ := isSeamless_cons_iff.mp seamless
    obtain ⟨colon, step, why⟩ := scanType_step depth afterColon next inside
    have plain : colon = false := by
      by_contra other
      exact absurd (why (by simpa using other)) (by decide)
    have rest : scanType 0 false next = ⟨[], next, 0⟩ := by
      cases next with
      | nil => rfl
      | cons d more =>
        have blank := after d rfl
        obtain ⟨opens, closes⟩ := not_bracket_of_isBlank blank
        simp [scanType, opens, closes, blank]
    rw [List.nil_append, step, plain, isSeamless_nil_iff.mp closed, rest]
    rfl
  | cons c rest ih =>
    obtain ⟨inside, later⟩ := isSeamless_cons_iff.mp seamless
    obtain ⟨colon, step, _⟩ :=
      scanType_step depth afterColon (rest ++ (')' : CodePoint) :: next) inside
    rw [List.cons_append, step, ih (nextDepth depth c) colon later]
    rfl

/-- The call of a written signature is split off as a type, if its white space stands between
brackets. -/
theorem Signature.Proper.splitType?_text (proper : found.Proper)
    (seamless : IsSeamless 0 found.call) :
    splitType? found.text = some (found.call, found.description.getD []) := by
  have call : found.call =
      (found.name ++ ('(' : CodePoint) :: found.parameters) ++ [(')' : CodePoint)] := by
    simp [Signature.call, ofString]
  have text : found.text =
      (found.name ++ ('(' : CodePoint) :: found.parameters) ++ (')' : CodePoint) :: found.tail := by
    simp [proper.text_eq]
  have first : found.call.head? ≠ some ('$' : CodePoint) := by
    obtain ⟨c, rest, named⟩ := List.exists_cons_of_ne_nil proper.nonempty
    have word := proper.word c (by simp [named])
    rintro same
    obtain rfl : c = ('$' : CodePoint) := by simpa [Signature.call, named] using same
    revert word
    decide
  have ends : (∀ c ∈ found.tail.head?, c.isBlank = true) ∧
      found.tail.strip = found.description.getD [] := by
    have space : (' ' : CodePoint).isBlank = true := by decide
    rw [tail]
    cases described : found.description with
    | none => exact ⟨by simp, rfl⟩
    | some t =>
      have trimmed := (proper.described t described).2
      refine ⟨by simpa using space, ?_⟩
      simp only [Option.elim_some, Option.getD_some, strip]
      rw [stripLeft_space trimmed.head, stripRight_eq_self trimmed.last]
  have scanned := scanType_closed ends.1 0 false (call ▸ seamless)
  rw [splitType?_eq_some_iff, proper.trimmed_text.strip_eq, text, scanned, ← call]
  exact ⟨rfl, rfl, ends.2, by simp [call], first⟩

/-- For an ordinary call the word is a mark exactly if the description looks like a signature. -/
theorem readsAsMark_iff {body : Text} (read : methodBody? entry.isStatic body = some entry)
    (seamless : IsSeamless 0 entry.call) :
    entry.ReadsAsMark ↔ entry.isStatic = false ∧ entry.type = some "static" ∧
      ∃ t ∈ entry.description, (signature? t).isSome = true := by
  obtain ⟨type, rest, found, split, signature, same⟩ := methodBody?_eq_some_iff.mp read
  have proper := signature?_proper (splitType?_rest_trimmed split) signature
  have call : entry.call = found.call := by rw [same]; rfl
  have signed : entry.signed = found.text := by rw [same]; rfl
  have described : entry.description = found.description := by rw [same]
  rw [Entry.ReadsAsMark, signed, described, methodBody?_isSome_iff,
    proper.splitType?_text (call ▸ seamless)]
  refine and_congr_right fun _ => and_congr_right fun _ => ?_
  cases found.description with
  | none => simp [signature?]
  | some t => simp

theorem toValue_method {body : Text} (read : methodBody? entry.isStatic body = some entry) :
    entry.toValue "method" = TagFamily.method.write entry := by
  have family : TagFamily.ofTag "method" = .method := by decide +kernel
  obtain ⟨_, _, _, _, _, same⟩ := methodBody?_eq_some_iff.mp read
  have raw : entry.raw = none := by rw [same]
  rw [Entry.toValue, raw, family]
  rfl

/-- A method is read back from the value that is written from it, unless its type is `static` and
what follows could be a static method by itself; then it is read as one. For a call whose white
space stands between brackets, this is so exactly if its description reads as a signature. -/
theorem method_read_back (read : readMethod? value = some entry) :
    (readMethod? (entry.toValue "method") = some entry ↔ ¬entry.ReadsAsMark) ∧
      (entry.ReadsAsMark →
        ∃ other, readMethod? (entry.toValue "method") = some other ∧ other.isStatic = true) ∧
      (IsSeamless 0 entry.call →
        (entry.ReadsAsMark ↔ entry.isStatic = false ∧ entry.type = some "static" ∧
          ∃ t ∈ entry.description, (signature? t).isSome = true)) := by
  obtain ⟨body, found⟩ := exists_methodBody? read
  rw [toValue_method found]
  refine ⟨⟨fun again reads => ?_, fun other => readMethod?_write other found⟩,
    fun reads => readMethod?_of_readsAsMark reads found, readsAsMark_iff found⟩
  obtain ⟨other, marked, isStatic⟩ := readMethod?_of_readsAsMark reads found
  obtain rfl : other = entry := Option.some.inj (marked.symm.trans again)
  simp [reads.1] at isStatic

/-- A static method with a generic type, parameters and a description. -/
theorem method_read_back_sample :
    ∃ entry, readMethod? "static Builder<int, User> active (int $n = 3, string $s)  Scope (x)" =
        some entry ∧ entry.isStatic = true ∧ readMethod? (entry.toValue "method") = some entry := by
  have read : readMethod? "static Builder<int, User> active (int $n = 3, string $s)  Scope (x)" =
      some ⟨some "Builder<int, User>", some "active", some "Scope (x)", none, true,
        some "int $n = 3, string $s"⟩ := by decide +kernel
  exact ⟨_, read, rfl, (method_read_back read).1.mpr fun reads => Bool.noConfusion reads.1⟩

/-- A method with the type `static` whose description begins like another method is read back as
that one. -/
theorem method_read_back_excludes :
    ∃ entry other, readMethod? "static foo () bar()" = some entry ∧
      readMethod? (entry.toValue "method") = some other ∧
      entry.type = some "static" ∧ entry.name = some "foo" ∧ entry.isStatic = false ∧
      other.type = some "foo()" ∧ other.name = some "bar" ∧ other.isStatic = true :=
  ⟨⟨some "static", some "foo", some "bar()", none, false, some []⟩,
    ⟨some "foo()", some "bar", none, none, true, some []⟩, by decide +kernel⟩

end DocRepair.Docblock
