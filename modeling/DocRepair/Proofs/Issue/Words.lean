import DocRepair.Proofs.Issue.Names

/-!
Where words stand in a text.

A pattern of letters looks for a word in any case. A word stands on one side of a separator, if none
of its letters can be the separator, so that a text mentions what its parts mention.
-/

namespace DocRepair

namespace Text

/-- A text is a word but for case. -/
abbrev SameLetters (word t : Text) : Prop :=
  List.Forall₂ (fun a b => CodePoint.sameLetter a b = true) word t

/-- A word stands somewhere in a text, in any case. -/
def Mentions (word t : Text) : Prop :=
  ∃ front part rest, t = front ++ (part ++ rest) ∧ SameLetters word part

/-- A word stands somewhere in a text, and no word character beside it. -/
def MentionsAlone (word t : Text) : Prop :=
  ∃ front part rest, t = front ++ (part ++ rest) ∧ SameLetters word part ∧
    front.getLast?.any CodePoint.isWord = false ∧ rest.head?.any CodePoint.isWord = false

/-- A word stands somewhere in a text, and another one after it. -/
def MentionsBoth (first second t : Text) : Prop :=
  ∃ front rest, t = front ++ rest ∧ Mentions first front ∧ Mentions second rest

/-- A word stands in one of several texts, and another one after it or in a later text. -/
def MentionedInOrder (first second : Text) : List Text → Prop
  | [] => False
  | t :: others => MentionsBoth first second t ∨
    (Mentions first t ∧ ∃ other ∈ others, Mentions second other) ∨
    MentionedInOrder first second others

/-! ### Texts with a separator -/

section Separated

variable {word first second x y : Text} {separator : CodePoint}

/-- A part without the separator stands on one side of it. -/
theorem beside_separator {front part rest : Text}
    (whole : front ++ (part ++ rest) = x ++ separator :: y) (apart : separator ∉ part) :
    (∃ left, x = front ++ (part ++ left) ∧ rest = left ++ separator :: y) ∨
      ∃ left, front = x ++ separator :: left ∧ y = left ++ (part ++ rest) := by
  rcases List.append_eq_append_iff.mp whole with ⟨more, rfl, same⟩ | ⟨more, rfl, same⟩
  · rcases List.append_eq_append_iff.mp same with ⟨left, rfl, rfl⟩ | ⟨left, rfl, behind⟩
    · exact .inl ⟨left, rfl, rfl⟩
    · cases left with
      | nil => exact .inl ⟨[], by simp, behind.symm⟩
      | cons c left =>
        obtain ⟨rfl, -⟩ := List.cons.inj behind
        exact absurd (by simp) apart
  · cases more with
    | nil =>
      cases part with
      | nil => exact .inl ⟨[], by simp, same.symm⟩
      | cons c part =>
        obtain ⟨rfl, -⟩ := List.cons.inj same
        exact absurd (by simp) apart
    | cons c left =>
      obtain ⟨rfl, rfl⟩ := List.cons.inj same
      exact .inr ⟨left, rfl, rfl⟩

theorem exists_letter_of_sameLetters {part : Text} (same : SameLetters word part) {d : CodePoint}
    (member : d ∈ part) : ∃ c ∈ word, c.sameLetter d = true := by
  induction same with
  | nil => cases member
  | cons letter _ ih =>
    rcases List.mem_cons.mp member with rfl | later
    · exact ⟨_, List.mem_cons_self, letter⟩
    · obtain ⟨c, listed, alike⟩ := ih later
      exact ⟨c, List.mem_cons_of_mem _ listed, alike⟩

theorem not_mem_of_sameLetters {part : Text} (same : SameLetters word part)
    (apart : ∀ c ∈ word, c.sameLetter separator = false) : separator ∉ part := by
  intro member
  obtain ⟨c, listed, alike⟩ := exists_letter_of_sameLetters same member
  rw [apart c listed] at alike
  cases alike

theorem Mentions.within {t : Text} (mentions : Mentions word t) (before after : Text) :
    Mentions word (before ++ (t ++ after)) := by
  obtain ⟨front, part, rest, rfl, same⟩ := mentions
  exact ⟨before ++ front, part, rest ++ after, by simp, same⟩

theorem mentions_separated (apart : ∀ c ∈ word, c.sameLetter separator = false) :
    Mentions word (x ++ separator :: y) ↔ Mentions word x ∨ Mentions word y := by
  constructor
  · rintro ⟨front, part, rest, whole, same⟩
    rcases beside_separator whole.symm (not_mem_of_sameLetters same apart) with
      ⟨left, rfl, -⟩ | ⟨left, -, rfl⟩
    · exact .inl ⟨front, part, left, rfl, same⟩
    · exact .inr ⟨left, part, rest, rfl, same⟩
  · rintro (before | after)
    · exact before.within [] (separator :: y)
    · have whole := after.within (x ++ [separator]) []
      simpa using whole

private theorem getLast?_separated (x : Text) (separator : CodePoint) {y : Text}
    (nonempty : y ≠ []) :
    (x ++ separator :: y).getLast? = y.getLast? := by
  rw [List.append_cons, List.getLast?_append_of_ne_nil _ nonempty]

theorem mentionsAlone_separated (apart : ∀ c ∈ word, c.sameLetter separator = false)
    (outside : separator.isWord = false) :
    MentionsAlone word (x ++ separator :: y) ↔ MentionsAlone word x ∨ MentionsAlone word y := by
  constructor
  · rintro ⟨front, part, rest, whole, same, before, after⟩
    rcases beside_separator whole.symm (not_mem_of_sameLetters same apart) with
      ⟨left, rfl, rfl⟩ | ⟨left, rfl, rfl⟩
    · refine .inl ⟨front, part, left, rfl, same, before, ?_⟩
      cases left with
      | nil => rfl
      | cons c left => exact after
    · refine .inr ⟨left, part, rest, rfl, same, ?_, after⟩
      by_cases nonempty : left = []
      · rw [nonempty]
        rfl
      · rwa [getLast?_separated x separator nonempty] at before
  · rintro (⟨front, part, rest, rfl, same, before, after⟩ |
      ⟨front, part, rest, rfl, same, before, after⟩)
    · refine ⟨front, part, rest ++ separator :: y, by simp, same, before, ?_⟩
      cases rest with
      | nil => simpa using outside
      | cons c rest => exact after
    · refine ⟨x ++ separator :: front, part, rest, by simp, same, ?_, after⟩
      by_cases nonempty : front = []
      · simpa [nonempty] using outside
      · rwa [getLast?_separated x separator nonempty]

theorem mentionsBoth_separated (firstApart : ∀ c ∈ first, c.sameLetter separator = false)
    (secondApart : ∀ c ∈ second, c.sameLetter separator = false) :
    MentionsBoth first second (x ++ separator :: y) ↔ MentionsBoth first second x ∨
      (Mentions first x ∧ Mentions second y) ∨ MentionsBoth first second y := by
  constructor
  · rintro ⟨front, rest, whole, one, two⟩
    rcases @beside_separator x y separator front [] rest whole.symm (by simp) with
      ⟨left, rfl, rfl⟩ | ⟨left, rfl, rfl⟩
    · rcases (mentions_separated secondApart).mp two with here | there
      · exact .inl ⟨front, left, rfl, one, here⟩
      · have wide := one.within [] left
        exact .inr (.inl ⟨wide, there⟩)
    · rcases (mentions_separated firstApart).mp one with here | there
      · have wide := two.within left []
        exact .inr (.inl ⟨here, by simpa using wide⟩)
      · exact .inr (.inr ⟨left, rest, rfl, there, two⟩)
  · rintro (⟨front, rest, rfl, one, two⟩ | ⟨one, two⟩ | ⟨front, rest, rfl, one, two⟩)
    · have wide := two.within [] (separator :: y)
      exact ⟨front, rest ++ separator :: y, by simp, one, wide⟩
    · have wide := two.within [separator] []
      exact ⟨x, separator :: y, rfl, one, by simpa using wide⟩
    · have wide := one.within (x ++ [separator]) []
      exact ⟨x ++ separator :: front, rest, by simp, by simpa using wide, two⟩

theorem MentionsBoth.mentions {t : Text} (both : MentionsBoth first second t) :
    Mentions first t := by
  obtain ⟨front, rest, rfl, one, -⟩ := both
  exact one.within [] rest

theorem MentionedInOrder.mentions {names : List Text}
    (inOrder : MentionedInOrder first second names) :
    ∃ name ∈ names, Mentions first name := by
  induction names with
  | nil => cases inOrder
  | cons name names ih =>
    rcases inOrder with both | ⟨one, -⟩ | later
    · exact ⟨name, List.mem_cons_self, both.mentions⟩
    · exact ⟨name, List.mem_cons_self, one⟩
    · obtain ⟨other, member, one⟩ := ih later
      exact ⟨other, List.mem_cons_of_mem _ member, one⟩

theorem MentionsAlone.mentions {t : Text} (alone : MentionsAlone word t) : Mentions word t := by
  obtain ⟨front, part, rest, split, same, -⟩ := alone
  exact ⟨front, part, rest, split, same⟩

end Separated

/-! ### Texts with names -/

/-- A text is made of names and of parts that mention none of some words, with punctuation between
any two of them. -/
inductive Framed (words : List Text) : List Text → Text → Prop
  | last (part : Text) (silent : ∀ word ∈ words, ¬Mentions word part) : Framed words [] part
  | part {names : List Text} {rest : Text} (part : Text) (separator : CodePoint)
    (silent : ∀ word ∈ words, ¬Mentions word part) (outside : separator.isPunctuation = true)
    (behind : Framed words names rest) : Framed words names (part ++ separator :: rest)
  | name {names : List Text} {rest : Text} (name : Text) (separator : CodePoint)
    (outside : separator.isPunctuation = true) (behind : Framed words names rest) :
    Framed words (name :: names) (name ++ separator :: rest)

section Framing

variable {words names : List Text} {word first second t : Text}

theorem apart_of_isPunctuation {separator : CodePoint} (letters : ∀ c ∈ word, c.isWord = true)
    (outside : separator.isPunctuation = true) :
    ∀ c ∈ word, c.sameLetter separator = false := by
  intro c member
  apply CodePoint.sameLetter_punctuation outside
  rintro rfl
  have word := letters c member
  rw [CodePoint.not_word_of_isPunctuation outside] at word
  cases word

theorem Framed.mentions_iff (framed : Framed words names t) (listed : word ∈ words)
    (letters : ∀ c ∈ word, c.isWord = true) :
    Mentions word t ↔ ∃ name ∈ names, Mentions word name := by
  induction framed with
  | last part silent => simp [silent word listed]
  | part part separator silent outside _ ih =>
    rw [mentions_separated (apart_of_isPunctuation letters outside), ih]
    simp [silent word listed]
  | name name separator outside _ ih =>
    rw [mentions_separated (apart_of_isPunctuation letters outside), ih,
      List.exists_mem_cons_iff]

theorem Framed.mentionsAlone_iff (framed : Framed words names t) (listed : word ∈ words)
    (letters : ∀ c ∈ word, c.isWord = true) :
    MentionsAlone word t ↔ ∃ name ∈ names, MentionsAlone word name := by
  induction framed with
  | last part silent =>
    have none : ¬MentionsAlone word _ := fun alone => silent word listed alone.mentions
    simp [none]
  | part part separator silent outside _ ih =>
    have none : ¬MentionsAlone word _ := fun alone => silent word listed alone.mentions
    rw [mentionsAlone_separated (apart_of_isPunctuation letters outside)
      (CodePoint.not_word_of_isPunctuation outside), ih]
    simp [none]
  | name name separator outside _ ih =>
    rw [mentionsAlone_separated (apart_of_isPunctuation letters outside)
      (CodePoint.not_word_of_isPunctuation outside), ih, List.exists_mem_cons_iff]

theorem Framed.mentionsBoth_iff (framed : Framed words names t) (firstListed : first ∈ words)
    (secondListed : second ∈ words) (firstLetters : ∀ c ∈ first, c.isWord = true)
    (secondLetters : ∀ c ∈ second, c.isWord = true) :
    MentionsBoth first second t ↔ MentionedInOrder first second names := by
  induction framed with
  | last part silent =>
    have none : ¬MentionsBoth first second _ := fun both => silent first firstListed both.mentions
    simp [none, MentionedInOrder]
  | part part separator silent outside _ ih =>
    have none : ¬MentionsBoth first second _ := fun both => silent first firstListed both.mentions
    rw [mentionsBoth_separated (apart_of_isPunctuation firstLetters outside)
      (apart_of_isPunctuation secondLetters outside), ih]
    simp [none, silent first firstListed]
  | name name separator outside behind ih =>
    rw [mentionsBoth_separated (apart_of_isPunctuation firstLetters outside)
      (apart_of_isPunctuation secondLetters outside), ih,
      behind.mentions_iff secondListed secondLetters]
    rfl

end Framing

end Text

/-! ### Patterns of letters -/

namespace Pattern

open Cursor Matcher Text

variable {word first second t : Text}

theorem anyCase_within (word : Text) : (anyCase word).run.Within fun c e =>
    ∃ part, SameLetters word part ∧ c.after = part ++ e.after ∧
      e.before = part.reverse ++ c.before := by
  induction word with
  | nil => exact fun c k d found => ⟨c, ⟨[], .nil, rfl, rfl⟩, found⟩
  | cons x word ih =>
    intro c k d found
    rw [anyCase, List.map_cons, run_all_cons] at found
    obtain ⟨y, rest, here, held, later⟩ := run_set_cases found
    have letter : x.sameLetter y = true := by
      simpa [CharSet.holds, SetItem.holdsAnyCase] using held
    obtain ⟨e, ⟨part, same, after, before⟩, last⟩ := ih _ k d later
    refine ⟨e, ⟨y :: part, .cons letter same, ?_, ?_⟩, last⟩
    · rw [here, show rest = part ++ e.after from after, List.cons_append]
    · rw [before, List.reverse_cons, List.append_assoc, List.singleton_append]

theorem occursIn_anyCase_iff : (anyCase word).occursIn t = true ↔ Mentions word t := by
  rw [occursIn_iff]
  constructor
  · rintro ⟨front, rest, rfl, found⟩
    obtain ⟨d, found⟩ := Option.isSome_iff_exists.mp found
    obtain ⟨e, ⟨part, same, after, -⟩, -⟩ := anyCase_within word _ _ d found
    exact ⟨front, part, e.after, congrArg (front ++ ·) after, same⟩
  · rintro ⟨front, part, rest, rfl, same⟩
    exact ⟨front, part ++ rest, rfl, (leads_anyCase same).reaches some rfl⟩

instance (word t : Text) : Decidable (Mentions word t) :=
  decidable_of_iff _ occursIn_anyCase_iff

theorem occursIn_alt_iff {p q : Pattern} :
    (Pattern.alt p q).occursIn t = true ↔ p.occursIn t = true ∨ q.occursIn t = true := by
  simp only [occursIn_iff]
  constructor
  · rintro ⟨front, rest, split, found⟩
    obtain ⟨d, found⟩ := Option.isSome_iff_exists.mp found
    refine (run_alt_cases found).imp ?_ ?_
    · intro left
      exact ⟨front, rest, split, by rw [left]; rfl⟩
    · intro right
      exact ⟨front, rest, split, by rw [right]; rfl⟩
  · rintro (⟨front, rest, split, found⟩ | ⟨front, rest, split, found⟩)
    · obtain ⟨d, found⟩ := Option.isSome_iff_exists.mp found
      exact ⟨front, rest, split, by simp only [run, found]; rfl⟩
    · refine ⟨front, rest, split, ?_⟩
      simp only [run]
      split
      · rfl
      · exact found

/-- On one line the second word may stand anywhere after the first. -/
theorem occursIn_both_iff (oneLine : CodePoint.ofChar '\n' ∉ t) :
    (all [anyCase first, restOfLine, anyCase second]).occursIn t = true ↔
      MentionsBoth first second t := by
  rw [occursIn_iff]
  constructor
  · rintro ⟨front, rest, rfl, found⟩
    obtain ⟨d, found⟩ := Option.isSome_iff_exists.mp found
    obtain ⟨c, ⟨part, same, after, -⟩, found⟩ := anyCase_within first _ _ d found
    obtain ⟨e, ⟨more, -, middle, -, -⟩, found⟩ := rounds_within (carried_consumes _)
      (set_within _) .greedy 0 none c _ d found
    obtain ⟨f, ⟨part', same', after', -⟩, -⟩ := anyCase_within second e _ d found
    refine ⟨front ++ part, more ++ e.after, ?_, ⟨front, part, [], by simp, same⟩,
      more, part', f.after, by rw [after'], same'⟩
    rw [show rest = part ++ c.after from after, middle, List.append_assoc]
  · rintro ⟨_, _, rfl, ⟨front, part, left, rfl, same⟩, more, part', rest, rfl, same'⟩
    have line : ∀ c ∈ left ++ more, CharSet.holds ⟨[.one '\n'], true, false⟩ c = true := by
      intro c member
      have other : CodePoint.ofChar '\n' ≠ c := by
        rintro rfl
        exact oneLine (by simp at member ⊢; tauto)
      simpa [CharSet.holds, SetItem.holds] using other
    have reaches : (all [anyCase first, restOfLine, anyCase second]).run.Reaches
        (between front (part ++ ((left ++ more) ++ (part' ++ rest))) []) _ :=
      reaches_all_cons (leads_anyCase same).reaches <|
      reaches_all_cons (reaches_many line) <|
      reaches_all_cons (leads_anyCase same').reaches (leads_all_nil _).reaches
    exact ⟨front, _, by simp, reaches some rfl⟩

theorem isAt_wordEdge (c : Cursor) : c.isAt .wordEdge =
    (c.before.head?.any CodePoint.isWord != c.after.head?.any CodePoint.isWord) := by
  obtain ⟨position, before, after, groups⟩ := c
  cases before <;> cases after <;> rfl

/-- Between two edges a word stands alone, if it begins and ends with word characters. -/
theorem occursIn_alone_iff (solid : ∀ part, SameLetters word part →
      part.head?.any CodePoint.isWord = true ∧ part.getLast?.any CodePoint.isWord = true) :
    (all [.anchor .wordEdge, anyCase word, .anchor .wordEdge]).occursIn t = true ↔
      MentionsAlone word t := by
  have edges : ∀ {front part rest : Text} {c d : Cursor}, SameLetters word part →
      c.before = front.reverse → c.after = part ++ rest →
      d.before = (front ++ part).reverse → d.after = rest →
      (c.isAt .wordEdge = true ∧ d.isAt .wordEdge = true ↔
        front.getLast?.any CodePoint.isWord = false ∧ rest.head?.any CodePoint.isWord = false) := by
    intro front part rest c d same before after before' after'
    obtain ⟨head, last⟩ := solid part same
    have nonempty : part ≠ [] := by
      rintro rfl
      cases head
    rw [isAt_wordEdge, isAt_wordEdge, before, after, before', after', List.head?_reverse,
      List.head?_reverse, List.head?_append_of_ne_nil _ nonempty,
      List.getLast?_append_of_ne_nil _ nonempty, head, last]
    simp
  have run_eq : ∀ c k, (all [.anchor .wordEdge, anyCase word, .anchor .wordEdge]).run c k =
      if c.isAt .wordEdge then (anyCase word).run c fun d => if d.isAt .wordEdge then k d else none
      else none :=
    fun c k => rfl
  rw [occursIn_iff]
  constructor
  · rintro ⟨front, rest, rfl, found⟩
    obtain ⟨d, found⟩ := Option.isSome_iff_exists.mp found
    rw [run_eq] at found
    split at found
    · rename_i opening
      obtain ⟨e, ⟨part, same, after, before⟩, last⟩ := anyCase_within word _ _ d found
      split at last
      · rename_i closing
        have alone := (edges same rfl after (by rw [before, List.reverse_append]; rfl) rfl).mp
          ⟨opening, closing⟩
        exact ⟨front, part, e.after, congrArg (front ++ ·) after, same, alone⟩
      · cases last
    · cases found
  · rintro ⟨front, part, rest, rfl, same, alone⟩
    obtain ⟨opening, closing⟩ := (@edges front part rest (between front (part ++ rest) [])
      (between (front ++ part) rest []) same rfl rfl rfl rfl).mpr alone
    refine ⟨front, part ++ rest, rfl, ?_⟩
    rw [run_eq, if_pos opening]
    exact (leads_anyCase same).reaches _ (by rw [if_pos closing]; rfl)

end Pattern

end DocRepair
