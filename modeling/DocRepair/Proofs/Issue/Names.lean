import DocRepair.Proofs.Number.Digits
import DocRepair.Proofs.Pattern.FirstPath
import DocRepair.Proofs.Text.Trimmed

/-!
The names that stand in messages.

Names hold no punctuation and no white space, in lower case neither, so that the text of a message
around its names shows where they end. Numbers are read back from their digits.
-/

namespace DocRepair

namespace CodePoint

/-! ### Lower case and punctuation -/

theorem le_val_ofNat {n bound : Nat} (above : bound ≤ n) (small : bound ≤ 0xFFFD) :
    bound ≤ (ofNat n).val := by
  rw [ofNat]
  split
  · exact above
  · exact small

theorem lower_cases (c : CodePoint) : c.lower = c ∨ 0x41 ≤ c.lower.val := by
  rw [lower]
  split
  · split
    · rename_i letter
      simp only [inRange, Bool.and_eq_true, decide_eq_true_eq] at letter
      have first : 'A'.toNat = 0x41 := rfl
      exact .inr (le_val_ofNat (by omega) (by omega))
    · exact .inl rfl
  · split
    · rename_i run found
      have covered := List.find?_some found
      have above : ∀ run ∈ lowerRuns, (0x41 : Int) ≤ run.first + run.shift := by decide +kernel
      have shifted := above run (List.mem_of_find?_eq_some found)
      simp only [LowerRun.covers, Bool.and_eq_true, decide_eq_true_eq] at covered
      exact .inr (le_val_ofNat (by omega) (by omega))
    · exact .inl rfl

/-- A code point below the letters that is no word character. -/
def isPunctuation (c : CodePoint) : Bool :=
  c.val < 0x41 && !c.isWord

theorem not_word_of_isPunctuation {c : CodePoint} (punctuation : c.isPunctuation = true) :
    c.isWord = false := by
  simp only [isPunctuation, Bool.and_eq_true, Bool.not_eq_true'] at punctuation
  exact punctuation.2

theorem lower_of_isPunctuation {c : CodePoint} (punctuation : c.isPunctuation = true) :
    c.lower = c := by
  simp only [isPunctuation, Bool.and_eq_true, decide_eq_true_eq] at punctuation
  rw [lower, if_pos (by omega), if_neg]
  have first : 'A'.toNat = 0x41 := rfl
  simp only [inRange, Bool.and_eq_true, decide_eq_true_eq]
  omega

/-- Punctuation has one form only. -/
theorem eq_of_sameLetter {c d : CodePoint} (punctuation : c.isPunctuation = true)
    (same : c.sameLetter d = true) : d = c := by
  have low : c.val < 0x41 := by
    simp only [isPunctuation, Bool.and_eq_true, decide_eq_true_eq] at punctuation
    exact punctuation.1
  have variants : c.lowerVariants = [c] := by
    have letters : ∀ entry ∈ caseVariants, 0x41 ≤ entry.1 := by decide +kernel
    have missing : caseVariants.lookup c.val = none := by
      rw [List.lookup_eq_none_iff]
      intro entry member
      have := letters entry member
      simp
      omega
    simp [lowerVariants, missing]
  have lowered : d.lower = c := by
    simp only [sameLetter, lower_of_isPunctuation punctuation, variants, Bool.or_eq_true,
      Bool.and_eq_true, beq_iff_eq] at same
    rcases same with same | ⟨_, same⟩
    · exact same.symm
    · simpa using same
  rcases d.lower_cases with self | above
  · exact self.symm.trans lowered
  · rw [lowered] at above
    omega

theorem sameLetter_punctuation {c d : CodePoint} (punctuation : d.isPunctuation = true)
    (other : c ≠ d) : c.sameLetter d = false := by
  have low : d.val < 0x41 := by
    simp only [isPunctuation, Bool.and_eq_true, decide_eq_true_eq] at punctuation
    exact punctuation.1
  have lowered : c.lower ≠ d := by
    intro same
    rcases c.lower_cases with self | above
    · exact other (self.symm.trans same)
    · rw [same] at above
      omega
  have unvaried : d ∉ c.lower.lowerVariants := by
    have letters : ∀ entry ∈ caseVariants, ∀ n ∈ entry.2, 0x41 ≤ n := by decide +kernel
    rw [lowerVariants, List.mem_cons, not_or]
    refine ⟨lowered.symm, ?_⟩
    intro member
    obtain ⟨n, listed, rfl⟩ := List.mem_map.mp member
    cases found : caseVariants.lookup c.lower.val with
    | none => simp [found] at listed
    | some variants =>
      obtain ⟨front, rest, entries, _⟩ := List.lookup_eq_some_iff.mp found
      have above := letters (c.lower.val, variants) (by simp [entries]) n (by simpa [found] using listed)
      have bound := le_val_ofNat above (by omega)
      omega
  simp [sameLetter, lower_of_isPunctuation punctuation, lowered, unvaried]

/-- A small Latin letter without variants, which is the lower-case form of its capital only. -/
def isSingle (c : CodePoint) : Bool :=
  c.inRange 'a' 'z' && (caseVariants.lookup c.val).isNone && lowerRuns.all fun run =>
    run.last < 0x80 || c.val < run.first + run.shift || run.last + run.shift < c.val

theorem isWord_of_sameLetter {c d : CodePoint} (single : c.isSingle = true)
    (same : c.sameLetter d = true) : d.isWord = true := by
  simp only [isSingle, inRange, Bool.and_eq_true, decide_eq_true_eq, Option.isNone_iff_eq_none,
    List.all_eq_true, Bool.or_eq_true] at single
  obtain ⟨⟨small, unvaried⟩, runs⟩ := single
  have bounds : 0x61 ≤ c.val ∧ c.val ≤ 0x7A := small
  have lowered : d.lower = c := by
    have self : c.lower = c := by
      rw [lower, if_pos (by omega), if_neg]
      have last : 'Z'.toNat = 0x5A := rfl
      simp only [inRange, Bool.and_eq_true, decide_eq_true_eq]
      omega
    simp only [sameLetter, self, lowerVariants, unvaried, Bool.or_eq_true, Bool.and_eq_true,
      beq_iff_eq] at same
    rcases same with same | ⟨_, same⟩
    · exact same.symm
    · simpa using same
  have ascii : ∀ {e : CodePoint}, e.inRange 'a' 'z' = true ∨ e.inRange 'A' 'Z' = true →
      e.val < 0x80 → e.isWord = true := by
    intro e letter below
    rw [isWord, isAlphanumeric, if_pos below]
    rcases letter with small | capital
    · rw [small]
      rfl
    · rw [capital, Bool.or_true]
      rfl
  have own : c.isWord = true := ascii (.inl (by simpa [inRange] using small)) (by omega)
  rw [lower] at lowered
  split at lowered
  · rename_i below
    split at lowered
    · rename_i capital
      exact ascii (.inr capital) below
    · rwa [lowered]
  · rename_i above
    split at lowered
    · rename_i run found
      have covered := List.find?_some found
      have outside := runs run (List.mem_of_find?_eq_some found)
      simp only [LowerRun.covers, Bool.and_eq_true, decide_eq_true_eq] at covered
      have value : (d.val + run.shift).toNat = c.val := by
        rw [← lowered, ofNat]
        split
        · rfl
        · rename_i large
          rw [← lowered, ofNat, dif_neg large] at bounds
          exact absurd bounds.2 (by decide)
      omega
    · rwa [lowered]

end CodePoint

/-! ### Names -/

/-- A name: word characters. -/
structure IsName (t : Text) : Prop where
  nonempty : t ≠ []
  inside : ∀ c ∈ t, c.isWord = true

/-- The name of a class, qualified or not: word characters and backslashes. -/
structure IsClassName (t : Text) : Prop where
  nonempty : t ≠ []
  inside : ∀ c ∈ t, c = '\\' ∨ c.isWord = true

/-- Whether a set may hold some of the code points of names. -/
def meetsNames : CharSet → Bool
  | ⟨[.one c], false, _⟩ => !c.isPunctuation
  | ⟨[.named .blank false], false, false⟩ => false
  | _ => true

theorem CodePoint.not_blank_of_name {c : CodePoint} (name : c = '\\' ∨ c.isWord = true) :
    c.isBlank = false := by
  rcases name with rfl | word
  · decide
  · exact isBlank_of_isWord word

theorem CodePoint.not_punctuation_of_name {c : CodePoint} (name : c = '\\' ∨ c.isWord = true) :
    c.isPunctuation = false := by
  rcases name with rfl | word
  · decide
  · simp [isPunctuation, word]

def nameGap : GapClass where
  holds c := c = '\\' ∨ c.isWord = true
  meets := meetsNames
  sound := by
    intro s c name held
    unfold meetsNames
    split
    · rename_i d anyCase
      rw [Bool.not_eq_true']
      by_contra punctuation
      rw [Bool.not_eq_false] at punctuation
      have same : d = c := by
        cases anyCase with
        | false => simpa [CharSet.holds, SetItem.holds] using held
        | true =>
          exact (CodePoint.eq_of_sameLetter punctuation
            (by simpa [CharSet.holds, SetItem.holdsAnyCase] using held)).symm
      rw [same, CodePoint.not_punctuation_of_name name] at punctuation
      cases punctuation
    · simp [CharSet.holds, SetItem.holds, CharClass.holds, CodePoint.not_blank_of_name name] at held
    · rfl

def lowerGap : GapClass where
  holds c := c ≠ ' '
  meets s := s ≠ ⟨[.one ' '], false, false⟩
  sound := by
    intro s c other held
    rw [decide_eq_true_eq]
    rintro rfl
    have same : (' ' : CodePoint) = c := by simpa [CharSet.holds, SetItem.holds] using held
    exact other same.symm

theorem lowerGap_of_lowerForms (c : CodePoint) (name : nameGap.holds c ∨ c = capitalSigma)
    (before after : Text) : ∀ d ∈ lowerForms before c after, lowerGap.holds d := by
  have other : c ≠ ' ' := by
    rintro rfl
    rcases name with name | sigma
    · have blank := CodePoint.not_blank_of_name name
      revert blank
      decide
    · revert sigma
      decide
  intro d member
  rw [lowerForms] at member
  split at member
  · rw [List.mem_pair] at member
    rcases member with rfl | rfl
    · show ('i' : CodePoint) ≠ ' '
      decide
    · show CodePoint.ofNat 0x307 ≠ ' '
      decide
  split at member
  · rw [List.mem_singleton] at member
    subst member
    show CodePoint.ofNat 0x3C2 ≠ ' '
    decide
  · rw [List.mem_singleton] at member
    subst member
    rcases c.lower_cases with self | above
    · rw [self]
      exact other
    · intro space
      rw [space] at above
      revert above
      decide

theorem IsName.gap {t : Text} (name : IsName t) : ∀ c ∈ t, nameGap.holds c :=
  fun c member => .inr (name.inside c member)

theorem IsClassName.gap {t : Text} (name : IsClassName t) : ∀ c ∈ t, nameGap.holds c :=
  name.inside

/-! ### Reading names -/

def blankSet : CharSet := ⟨[.named .blank false], false, false⟩

theorem IsClassName.not_blank {name : Text} (isName : IsClassName name) (rest : Text) :
    ∀ x ∈ (name ++ rest).head?, blankSet.holds x = false := by
  cases name with
  | nil => exact absurd rfl isName.nonempty
  | cons y name =>
    intro x head
    cases head
    simpa [blankSet, CharSet.holds, SetItem.holds, CharClass.holds] using
      CodePoint.not_blank_of_name (isName.inside y (by simp))

def lineSet : CharSet := ⟨[.one '\n'], true, false⟩

theorem IsClassName.on_line {name : Text} (isName : IsClassName name) :
    ∀ c ∈ name, lineSet.holds c = true := by
  intro c member
  have other : ('\n' : CodePoint) ≠ c := by
    rintro rfl
    have blank := CodePoint.not_blank_of_name (isName.inside _ member)
    revert blank
    decide
  simpa [lineSet, CharSet.holds, SetItem.holds] using other

namespace Pattern

open Cursor

variable {s : CharSet} {front name t rest : Text} {groups : List (Nat × Capture)}

/-- A run ends before a text that begins with another code point. -/
theorem stops_before (outside : (t.head?.any fun x => !s.holds x) = true) (rest : Text) :
    ∀ x ∈ (t ++ rest).head?, s.holds x = false := by
  cases t with
  | nil => cases outside
  | cons y t =>
    intro x head
    cases head
    simpa using outside

theorem leads_word (isName : IsName name) (stop : ∀ x ∈ rest.head?, wordSet.holds x = false) :
    word.run.Leads (between front (name ++ rest) groups) (between (front ++ name) rest groups) :=
  leads_many1 (fun x member => by
    simp [CharSet.holds, SetItem.holds, CharClass.holds, isName.inside x member])
    isName.nonempty stop

theorem leads_className (isName : IsClassName name)
    (stop : ∀ x ∈ rest.head?, classNameSet.holds x = false) :
    className.run.Leads (between front (name ++ rest) groups)
      (between (front ++ name) rest groups) :=
  leads_many1 (fun x member => by
    rcases isName.inside x member with rfl | word
    · simp [CharSet.holds, SetItem.holds]
    · simp [CharSet.holds, SetItem.holds, CharClass.holds, word])
    isName.nonempty stop

theorem leads_space (stop : ∀ x ∈ rest.head?, blankSet.holds x = false) :
    blanks.run.Leads (between front (" " ++ rest) groups) (between (front ++ " ") rest groups) :=
  leads_many1 (by decide) (by decide) stop

theorem leads_ownerClass (isName : IsClassName name) :
    Message.ownerClass.run.Leads (between front (name ++ ("::" ++ rest)) groups)
      (between (front ++ name ++ "::") rest groups) :=
  leads_optional (leads_all_cons (leads_className isName (stops_before (by decide) _))
    (leads_all_cons (leads_exactly "::") (leads_all_nil _)))

end Pattern

/-! ### Numbers -/

def digitSet : CharSet := ⟨[.named .digit false], false, false⟩

namespace CodePoint

variable {c : CodePoint}

theorem isAsciiDigit_iff : c.isAsciiDigit = true ↔ 0x30 ≤ c.val ∧ c.val ≤ 0x39 := by
  simp [isAsciiDigit, inRange]

theorem decimal?_of_isAsciiDigit (digit : c.isAsciiDigit = true) :
    c.decimal? = some (c.val - 0x30) := by
  have bounds := isAsciiDigit_iff.mp digit
  rw [decimal?, decimalRanges, decimalIn, if_neg (by omega), if_pos bounds.2,
    Nat.mod_eq_of_lt (by omega)]

theorem isWord_of_isAsciiDigit (digit : c.isAsciiDigit = true) : c.isWord = true := by
  have bounds := isAsciiDigit_iff.mp digit
  rw [isAsciiDigit] at digit
  rw [isWord, isAlphanumeric, if_pos (by omega), digit, Bool.or_true, Bool.true_or]

end CodePoint

namespace Text

theorem isAsciiDigit_ofChar {digit : Char} (inside : digit.isDigit = true) :
    (CodePoint.ofChar digit).isAsciiDigit = true := by
  simp only [Char.isDigit, Bool.and_eq_true, decide_eq_true_eq] at inside
  exact CodePoint.isAsciiDigit_iff.mpr inside

theorem isAsciiDigit_ofNat (n : Nat) : ∀ c ∈ ofNat n, c.isAsciiDigit = true := by
  intro c member
  obtain ⟨digit, source, rfl⟩ := List.mem_map.mp member
  exact isAsciiDigit_ofChar (Nat.isDigit_of_mem_toDigits (by omega) (by omega) source)

end Text

theorem writes_ofNat (n : Nat) : Writes (Text.ofNat n) n := by
  have inside : ∀ c ∈ Nat.toDigits 10 n, c.isDigit = true := fun c member =>
    Nat.isDigit_of_mem_toDigits (by omega) (by omega) member
  have read : ∀ (digits : List Char) (value : Nat), (∀ c ∈ digits, c.isDigit = true) →
      (digits.map CodePoint.ofChar).foldlM (fun n c => c.decimal?.map (n * 10 + ·)) value =
        some (Nat.ofDigitChars 10 digits value) := by
    intro digits
    induction digits with
    | nil => exact fun _ _ => rfl
    | cons c rest ih =>
      intro value inside
      have here := CodePoint.decimal?_of_isAsciiDigit (Text.isAsciiDigit_ofChar (inside c (by simp)))
      rw [List.map_cons, List.foldlM_cons, here, Nat.ofDigitChars_cons, Nat.mul_comm 10]
      exact ih _ fun d member => inside d (by simp [member])
  apply decimalDigits?_eq_some_iff.mp
  rw [decimalDigits?, if_neg (by simp [Text.ofNat, Nat.toDigits_ne_nil]), Text.ofNat,
    read _ 0 inside, Nat.ofDigitChars_ten_toDigits]

/-- A number is read back from its digits, if they are not too many. -/
theorem readInteger_ofNat (n : Nat) : readInteger (Text.ofNat n) =
    if maxIntegerDigits < (Text.ofNat n).length then .error (.tooLong (Text.ofNat n).length)
    else .ok n :=
  readInteger_of_writes (writes_ofNat n) ⟨[], [], by simp, by simp, by simp⟩

theorem isName_ofNat (n : Nat) : IsName (Text.ofNat n) where
  nonempty := by simp [Text.ofNat, Nat.toDigits_ne_nil]
  inside c member := CodePoint.isWord_of_isAsciiDigit (Text.isAsciiDigit_ofNat n c member)

theorem Pattern.leads_digits (n : Nat) {front rest : Text} {groups : List (Nat × Capture)}
    (stop : ∀ x ∈ rest.head?, digitSet.holds x = false) :
    (many1 (cls .digit)).run.Leads (.between front (Text.ofNat n ++ rest) groups)
      (.between (front ++ Text.ofNat n) rest groups) :=
  leads_many1 (fun x member => by
    have digit := CodePoint.decimal?_of_isAsciiDigit (Text.isAsciiDigit_ofNat n x member)
    simp [CharSet.holds, SetItem.holds, CharClass.holds, CodePoint.isDecimal, digit])
    (isName_ofNat n).nonempty stop

end DocRepair
