import DocRepair.Proofs.Issue.Dispatch
import DocRepair.Proofs.Issue.Words
import DocRepair.Proofs.Sequence
import Mathlib.Data.List.Nodup

/-!
Messages that go by the words in their names.

Two fixers look for plain words anywhere in a message and are asked before the fixer of value types:
one for `callable` with `invoked` after it, the other for `impure`, or `pure` as a word. In the
messages about value types these words can stand in the names only. The pivot of a relation is left
out by the fixer of properties, and goes to the fixer of mixins.
-/

namespace DocRepair

open Outline Text

def MentionsPurity (names : List Text) : Prop :=
  ∃ name ∈ names, Mentions "impure" name ∨ MentionsAlone "pure" name

theorem MentionsPurity.mentions {names : List Text} (purity : MentionsPurity names) :
    ∃ name ∈ names, Mentions "impure" name ∨ Mentions "pure" name := by
  obtain ⟨name, member, either⟩ := purity
  exact ⟨name, member, either.imp_right MentionsAlone.mentions⟩

/-- A message goes to its own fixer, unless the names in it mention callables that are invoked, or
purity. -/
structure Registry.SendsByNames (r : Registry) (message : Text) (names : List Text) (own : Text) :
    Prop where
  callable : MentionedInOrder "callable" "invoked" names → r.Sends message "CallableTypeFixer"
  purity : ¬MentionedInOrder "callable" "invoked" names → MentionsPurity names →
    r.Sends message "ImpureFunctionFixer"
  neither : ¬MentionedInOrder "callable" "invoked" names → ¬MentionsPurity names →
    r.Sends message own

/-- The words that fixers look for in any place. -/
def misleading : List Text := ["callable", "invoked", "impure", "pure"]

theorem Text.cons_eq_ofString_append (c : Char) (rest : Text) :
    CodePoint.ofChar c :: rest = ofString (String.singleton c) ++ rest := by
  simp [ofString]

/-- Without a line feed in its outline a text is one line, since names hold none. -/
theorem Outline.Describes.oneLine {o : Outline} {t : Text} (described : Describes nameGap o t)
    (absent : o.all (fun | .known c => c != '\n' | .gap => true) = true) :
    CodePoint.ofChar '\n' ∉ t := by
  induction described with
  | nil => simp
  | known c _ ih =>
    rw [List.all_cons, Bool.and_eq_true, bne_iff_ne] at absent
    simp [absent.1.symm, ih absent.2]
  | @gap name inside o t _ ih =>
    have outside : CodePoint.ofChar '\n' ∉ name := by
      intro member
      have blank := CodePoint.not_blank_of_name (inside _ member)
      revert blank
      decide
    simp [outside, ih absent]

/-! ### Requirements -/

namespace Pattern

open Cursor Matcher

/-- The beginning of a verb behind a blank, which does not follow a `d`. -/
def requiredSets (stem : Text) : List CharSet :=
  ⟨[.one 'd'], true, false⟩ :: blankSet :: stem.map fun c => ⟨[.one c], false, true⟩

theorem run_all_cons_apply (p : Pattern) (rest : List Pattern) (c : Cursor)
    (k : Cursor → Option Cursor) :
    (all (p :: rest)).run c k = p.run c fun d => (all rest).run d k := by
  rw [run_all_cons, run_seq]

/-- Between two places there is no `d`. -/
private def Spares (c e : Cursor) : Prop :=
  ∃ part, c.after = part ++ e.after ∧ CodePoint.ofChar 'd' ∉ part

private theorem carried_spares : Carried Spares where
  refl c := ⟨[], rfl, by simp⟩
  trans := by
    rintro c d e ⟨part, after, absent⟩ ⟨part', after', absent'⟩
    exact ⟨part ++ part', by rw [after, after', List.append_assoc], by simp [absent, absent']⟩

private theorem anyCase_spares {word : Text}
    (apart : ∀ c ∈ word, c.sameLetter 'd' = false) : (anyCase word).run.Within Spares := by
  intro c k d found
  obtain ⟨e, ⟨part, same, after, -⟩, last⟩ := anyCase_within word c k d found
  exact ⟨e, ⟨part, after, not_mem_of_sameLetters same apart⟩, last⟩

private theorem exists_concat_of_ne_nil {t : Text} (nonempty : t ≠ []) :
    ∃ part x, t = part ++ [x] :=
  ⟨t.dropLast, t.getLast nonempty, (List.dropLast_append_getLast nonempty).symm⟩

/-- White space ends with a blank, and there is no `d` in it. -/
private theorem blanks_within : blanks.run.Within fun c e => ∃ part b,
    c.after = part ++ b :: e.after ∧ CodePoint.ofChar 'd' ∉ part ∧ blankSet.holds b = true := by
  intro c k d found
  obtain ⟨b, rest, here, held, found⟩ := run_set_cases found
  obtain ⟨e, ⟨more, inside, there, -, -⟩, last⟩ := rounds_within (carried_consumes _)
    (set_within blankSet) .greedy 0 none _ _ d found
  have whole : c.after = (b :: more) ++ e.after := by
    rw [here, List.cons_append]
    exact congrArg (b :: ·) there
  have all : ∀ x ∈ b :: more, blankSet.holds x = true := by
    intro x member
    rcases List.mem_cons.mp member with rfl | later
    · exact held
    · exact inside x later
  obtain ⟨part, final, split⟩ := exists_concat_of_ne_nil (List.cons_ne_nil b more)
  rw [split] at whole all
  refine ⟨e, ⟨part, final, by simpa using whole, ?_, all final (by simp)⟩, last⟩
  intro member
  have blank := all _ (List.mem_append_left _ member)
  revert blank
  decide

theorem anyOf_anyCase_within {verbs : List Text} {stem : Text} (some : verbs ≠ [])
    (stems : ∀ verb ∈ verbs, verb.take stem.length = stem) :
    (anyOf (verbs.map anyCase)).run.Within fun c e => ∃ part, c.after = part ++ e.after ∧
      SameLetters stem (part.take stem.length) := by
  have stemmed : ∀ verb ∈ verbs, (anyCase verb).run.Within fun c e =>
      ∃ part, c.after = part ++ e.after ∧ SameLetters stem (part.take stem.length) := by
    intro verb member c k d found
    obtain ⟨e, ⟨part, same, after, -⟩, last⟩ := anyCase_within verb c k d found
    have begins := List.forall₂_take stem.length same
    rw [stems verb member] at begins
    exact ⟨e, ⟨part, after, begins⟩, last⟩
  clear stems
  induction verbs with
  | nil => exact absurd rfl some
  | cons verb verbs ih =>
    cases verbs with
    | nil => exact stemmed verb List.mem_cons_self
    | cons next verbs =>
      intro c k d found
      rcases run_alt_cases found with here | later
      · exact stemmed verb List.mem_cons_self c k d here
      · exact ih (by simp) (fun v member => stemmed v (List.mem_cons_of_mem _ member)) c k d later

/-- Where a requirement is mentioned, its verb follows a blank, and that one does not follow a
`d`. -/
theorem holds_required {verbs : List Text} {stem message : Text} (some : verbs ≠ [])
    (stems : ∀ verb ∈ verbs, verb.take stem.length = stem)
    (occurs : (Fixer.required verbs).occursIn message = true) :
    ∃ before t rest, message = before ++ (t ++ rest) ∧ Fits (requiredSets stem) t := by
  obtain ⟨front, rest, rfl, found⟩ := occursIn_iff.mp occurs
  obtain ⟨d, found⟩ := Option.isSome_iff_exists.mp found
  rw [Fixer.required, run_all_cons_apply] at found
  obtain ⟨c, ⟨head, same, after, -⟩, found⟩ := anyCase_within _ _ _ d found
  have noD : CodePoint.ofChar 'd' ∉ head := not_mem_of_sameLetters same (by decide)
  rw [run_all_cons_apply] at found
  obtain ⟨c', ⟨plural, after', noD'⟩, found⟩ := rounds_within carried_spares
    (anyCase_spares (by decide)) .greedy 0 (Option.some 1) c _ d found
  rw [run_all_cons_apply] at found
  obtain ⟨e, ⟨space, b, here, noD'', blank⟩, found⟩ := blanks_within c' _ d found
  rw [run_all_cons_apply] at found
  obtain ⟨f, ⟨verb, there, begins⟩, -⟩ := anyOf_anyCase_within some stems e _ d found
  have nonempty : head ++ (plural ++ space) ≠ [] := by
    cases same
    simp
  obtain ⟨lead, x, split⟩ := exists_concat_of_ne_nil nonempty
  have other : x ≠ 'd' := by
    rintro rfl
    have member : CodePoint.ofChar 'd' ∈ head ++ (plural ++ space) := by simp [split]
    simp [noD, noD', noD''] at member
  refine ⟨front ++ lead, x :: b :: verb.take stem.length, verb.drop stem.length ++ f.after, ?_,
    .cons ?_ (.cons blank ?_)⟩
  · have whole : rest = (head ++ (plural ++ space)) ++ b :: (verb ++ f.after) := by
      rw [show rest = head ++ c.after from after, after', here, there]
      simp
    have cut : verb.take stem.length ++ (verb.drop stem.length ++ f.after) = verb ++ f.after := by
      rw [← List.append_assoc, List.take_append_drop]
    rw [whole, split]
    simp [cut]
  · simpa [CharSet.holds, SetItem.holds] using other.symm
  · rw [List.forall₂_map_left_iff]
    exact begins.imp fun a b letter => by simp [CharSet.holds, SetItem.holdsAnyCase, letter]

/-- A requirement is not mentioned where the outline excludes the beginning of its verb. -/
theorem required_absent {verbs : List Text} {o : Outline} {message : Text} (stem : Text)
    (some : verbs ≠ []) (stems : ∀ verb ∈ verbs, verb.take stem.length = stem)
    (described : Describes nameGap o message)
    (excluded : o.mayHold nameGap.meets (requiredSets stem) = false) :
    (Fixer.required verbs).occursIn message = false := by
  by_contra occurs
  obtain ⟨before, t, rest, rfl, fits⟩ :=
    holds_required some stems (Bool.not_eq_false _ ▸ occurs)
  rw [mayHold_of_fits described fits] at excluded
  cases excluded

end Pattern

namespace Claimant

variable {o : Outline} {message : Text} {names : List Text}

def otherPatterns : List Pattern :=
  [.all [.anyCase "parameter", .restOfLine, .anyCase "expects callable"], .anyCase "side effect",
    .anyCase "different values", .anyCase "non-deterministic"]

/-- The outline of a message leaves only the words in its names to the fixers of callables and of
purity. -/
structure LeavesNames (o : Outline) : Prop where
  oneLine : o.all (fun | .known c => c != '\n' | .gap => true) = true
  others : otherPatterns.all (fun p => !p.mayOccur nameGap.meets o) = true

theorem LeavesNames.absent (leaves : LeavesNames o) (described : Describes nameGap o message) :
    ∀ p ∈ otherPatterns, p.occursIn message = false := by
  intro p member
  exact Pattern.occursIn_eq_false described
    (by simpa using List.all_eq_true.mp leaves.others p member)

theorem claims_callable_iff (leaves : LeavesNames o) (described : Describes nameGap o message)
    (framed : Framed misleading names message) :
    (ofPatterns "CallableTypeFixer" Fixer.callableMessages).claims message = true ↔
      MentionedInOrder "callable" "invoked" names := by
  have absent := leaves.absent described
  simp only [otherPatterns, List.forall_mem_cons] at absent
  rw [← framed.mentionsBoth_iff (by decide) (by decide) (by decide) (by decide),
    ← Pattern.occursIn_both_iff (described.oneLine leaves.oneLine)]
  simp [ofPatterns, Fixer.callableMessages, absent.1]

/-- The letters of `pure` are word characters in either case. -/
theorem pure_solid (part : Text) (same : SameLetters "pure" part) :
    part.head?.any CodePoint.isWord = true ∧ part.getLast?.any CodePoint.isWord = true := by
  have inside : ∀ c ∈ part, c.isWord = true := by
    intro c member
    obtain ⟨letter, listed, alike⟩ := exists_letter_of_sameLetters same member
    have single : ∀ letter ∈ ("pure" : Text), letter.isSingle = true := by decide
    exact CodePoint.isWord_of_sameLetter (single letter listed) alike
  have nonempty : part ≠ [] := by
    rintro rfl
    cases same
  constructor
  · obtain ⟨c, rest, rfl⟩ := List.exists_cons_of_ne_nil nonempty
    exact inside c List.mem_cons_self
  · rw [List.getLast?_eq_getLast_of_ne_nil nonempty]
    exact inside _ (List.getLast_mem nonempty)

theorem claims_purity_iff (leaves : LeavesNames o) (described : Describes nameGap o message)
    (framed : Framed misleading names message) :
    (ofPatterns "ImpureFunctionFixer" [Fixer.impureWords, Fixer.pureWord]).claims message = true ↔
      MentionsPurity names := by
  have absent := leaves.absent described
  simp only [otherPatterns, List.forall_mem_cons] at absent
  obtain ⟨-, effect, values, random, -⟩ := absent
  have impure : Fixer.impureWords.occursIn message = true ↔
      ∃ name ∈ names, Mentions "impure" name := by
    rw [← framed.mentions_iff (by decide) (by decide), ← Pattern.occursIn_anyCase_iff]
    simp [Fixer.impureWords, Pattern.anyOf, Pattern.occursIn_alt_iff, effect, values, random]
  have pure : Fixer.pureWord.occursIn message = true ↔
      ∃ name ∈ names, MentionsAlone "pure" name := by
    rw [← framed.mentionsAlone_iff (by decide) (by decide)]
    exact Pattern.occursIn_alone_iff pure_solid
  simp only [ofPatterns, List.any_cons, List.any_nil, Bool.or_false, Bool.or_eq_true, impure, pure,
    MentionsPurity]
  exact exists_or.symm.trans (exists_congr fun name => by rw [← and_or_left])

theorem refuses_requirements (described : Describes nameGap o message)
    (excluded : ∀ stem ∈ (["ex", "im"] : List Text),
      o.mayHold nameGap.meets (Pattern.requiredSets stem) = false) :
    (ofPatterns "RequireExtendsFixer" [Fixer.requireExtends.mention]).claims message = false ∧
      (ofPatterns "RequireImplementsFixer" [Fixer.requireImplements.mention]).claims message =
        false := by
  have noExtends : Fixer.requireExtends.mention.occursIn message = false :=
    Pattern.required_absent "ex" (by decide) (by decide) described (excluded _ (by decide))
  have noImplements : Fixer.requireImplements.mention.occursIn message = false :=
    Pattern.required_absent "im" (by decide) (by decide) described (excluded _ (by decide))
  constructor
  · simpa [ofPatterns] using noExtends
  · simpa [ofPatterns] using noImplements

/-- A message about value types goes by its names, if its outline excludes all fixers that are asked
earlier, other than by name. -/
theorem sendsByNames (analyze : Analyzer) (leaves : LeavesNames o)
    (described : Describes nameGap o message) (framed : Framed misleading names message)
    (others : ∀ j < 13, j ∉ [7, 9, 11, 12] → all[j]?.any (fun other => other.may o) = false)
    (verbs : ∀ stem ∈ (["ex", "im"] : List Text),
      o.mayHold nameGap.meets (Pattern.requiredSets stem) = false)
    (claimed : Fixer.valueTypeMessage.occursIn message = true) :
    (Registry.standard analyze).SendsByNames message names "IterableValueTypeFixer" := by
  have callable := claims_callable_iff leaves described framed
  have purity := claims_purity_iff leaves described framed
  obtain ⟨noExtends, noImplements⟩ := refuses_requirements described verbs
  constructor
  · intro inOrder
    refine sends_unless analyze 7 rfl described [] ?_ (by simp) (callable.mpr inOrder)
    intro j early _
    exact others j (by omega) (by simp; omega)
  · intro noCallable pure
    have refused := Bool.eq_false_iff.mpr (mt callable.mp noCallable)
    refine sends_unless analyze 9 rfl described [7] ?_ ?_ (purity.mpr pure)
    · intro j early unlisted
      exact others j (by omega) (by simp at unlisted ⊢; omega)
    · simpa [all] using refused
  · intro noCallable noPurity
    have refused := Bool.eq_false_iff.mpr (mt callable.mp noCallable)
    have refused' := Bool.eq_false_iff.mpr (mt purity.mp noPurity)
    refine sends_unless analyze 13 rfl described [7, 9, 11, 12] others ?_ ?_
    · simpa [all] using And.intro refused (And.intro refused' (And.intro noExtends noImplements))
    · simpa [ofPatterns] using claimed

end Claimant

namespace Message

open Pattern

variable {analyze : Analyzer} {owner method parameter : Text}

/-- A parameter without a type for its values. -/
def noValueType (owner method parameter : Text) : Text :=
  "Method " ++ owner ++ "::" ++ method ++ "() has parameter $" ++ parameter ++
    " with no value type specified in iterable type array."

/-- A result without a type for its values. -/
def noReturnValueType (owner method : Text) : Text :=
  "Method " ++ owner ++ "::" ++ method ++
    "() return type has no value type specified in iterable type array."

def fixedParts : List Text :=
  ["Method", "", ") has parameter ", "with no value type specified in iterable type array.",
    ") return type has no value type specified in iterable type array.",
    "Access to an undefined property", ":$pivot."]

theorem fixedParts_silent :
    ∀ part ∈ fixedParts, ∀ word ∈ misleading, ¬Mentions word part := by
  decide +kernel

theorem framed_part {names : List Text} {rest : Text} (part : Text) (separator : CodePoint)
    (listed : part ∈ fixedParts) (outside : separator.isPunctuation = true)
    (behind : Framed misleading names rest) :
    Framed misleading names (part ++ separator :: rest) :=
  .part part separator (fixedParts_silent part listed) outside behind

theorem framed_last (part : Text) (listed : part ∈ fixedParts) : Framed misleading [] part :=
  .last part (fixedParts_silent part listed)

theorem framed_noValueType (owner method parameter : Text) :
    Framed misleading [owner, method, parameter] (noValueType owner method parameter) := by
  have ending := framed_last "with no value type specified in iterable type array."
    (by simp [fixedParts])
  have framed : Framed misleading [owner, method, parameter] _ :=
    framed_part "Method" ' ' (by simp [fixedParts]) (by decide) <|
    .name owner ':' (by decide) <|
    framed_part "" ':' (by simp [fixedParts]) (by decide) <|
    .name method '(' (by decide) <|
    framed_part ") has parameter " '$' (by simp [fixedParts]) (by decide) <|
    .name parameter ' ' (by decide) ending
  rw [noValueType]
  simp only [List.append_assoc, cons_eq_ofString_append, ofString_append, ofString_append_append,
    String.reduceSingleton, String.reduceAppend] at framed ⊢
  exact framed

theorem framed_noReturnValueType (owner method : Text) :
    Framed misleading [owner, method] (noReturnValueType owner method) := by
  have ending := framed_last
    ") return type has no value type specified in iterable type array."
    (by simp [fixedParts])
  have framed : Framed misleading [owner, method] _ :=
    framed_part "Method" ' ' (by simp [fixedParts]) (by decide) <|
    .name owner ':' (by decide) <|
    framed_part "" ':' (by simp [fixedParts]) (by decide) <|
    .name method '(' (by decide) ending
  rw [noReturnValueType]
  simp only [List.append_assoc, cons_eq_ofString_append, ofString_append, ofString_append_append,
    String.reduceSingleton, String.reduceAppend] at framed ⊢
  exact framed

theorem noValueType_sends (ownerName : IsClassName owner) (methodName : IsName method)
    (isName : IsName parameter) :
    (Registry.standard analyze).SendsByNames (noValueType owner method parameter)
      [owner, method, parameter] "IterableValueTypeFixer" := by
  have described := Describes.words "Method " (.className ownerName (.words "::" (.name methodName
    (.words "() has parameter $" (.name isName
      (describes_fixed nameGap " with no value type specified in iterable type array."))))))
  have occurs : Fixer.valueTypeMessage.occursIn (("Method " ++ (owner ++ ("::" ++ (method ++
      ("() has parameter $" ++ (parameter ++ " with ")))))) ++
        ("no value type specified in iterable type" ++ " array.")) = true :=
    occursIn_of_reaches (reaches_alt_right (leads_anyCase_self _).reaches)
  have framed := framed_noValueType owner method parameter
  rw [noValueType] at framed ⊢
  simp only [List.append_assoc, ofString_append, String.reduceAppend] at occurs framed ⊢
  exact Claimant.sendsByNames analyze ⟨by decide, by decide +kernel⟩ described framed
    (by decide +kernel) (by decide +kernel) occurs

theorem noReturnValueType_sends (ownerName : IsClassName owner) (methodName : IsName method) :
    (Registry.standard analyze).SendsByNames (noReturnValueType owner method) [owner, method]
      "IterableValueTypeFixer" := by
  have described := Describes.words "Method " (.className ownerName (.words "::" (.name methodName
    (describes_fixed nameGap
      "() return type has no value type specified in iterable type array."))))
  have occurs : Fixer.valueTypeMessage.occursIn (("Method " ++ (owner ++ ("::" ++ (method ++
      "() return type has ")))) ++ ("no value type specified in iterable type" ++ " array.")) =
      true :=
    occursIn_of_reaches (reaches_alt_right (leads_anyCase_self _).reaches)
  have framed := framed_noReturnValueType owner method
  rw [noReturnValueType] at framed ⊢
  simp only [List.append_assoc, ofString_append, String.reduceAppend] at occurs framed ⊢
  exact Claimant.sendsByNames analyze ⟨by decide, by decide +kernel⟩ described framed
    (by decide +kernel) (by decide +kernel) occurs

/-! ### The pivot of a relation -/

theorem pivot_sends (ownerName : IsClassName owner) :
    (MentionedInOrder "callable" "invoked" [owner] →
      (Registry.standard analyze).Sends (unknownProperty owner "pivot") "CallableTypeFixer") ∧
    (¬MentionedInOrder "callable" "invoked" [owner] →
      (Registry.standard analyze).Sends (unknownProperty owner "pivot") "MixinFixer") := by
  have described := Describes.words "Access to an undefined property " (.className ownerName
    (describes_fixed nameGap "::$pivot."))
  have framed : Framed misleading [owner] _ :=
    framed_part "Access to an undefined property" ' ' (by simp [fixedParts]) (by decide) <|
    .name owner ':' (by decide) <| framed_last ":$pivot." (by simp [fixedParts])
  have occurs : undefinedProperty.occursIn ("Access to " ++ ("an " ++ ("undefined property" ++
      (" " ++ (owner ++ "::$pivot."))))) = true :=
    occursIn_article _ _ (by decide)
  have pivot : IsName "pivot" := ⟨by decide, by decide⟩
  have named := propertyName?_unknownProperty ownerName pivot
  rw [unknownProperty] at named ⊢
  simp only [List.append_assoc, cons_eq_ofString_append, ofString_append, ofString_append_append,
    String.reduceSingleton, String.reduceAppend] at framed occurs named ⊢
  have left : Claimant.property.claims ("Access to an undefined property " ++
      (owner ++ "::$pivot.")) = false := by
    rw [Claimant.claims_property, named]
    simp [Fixer.pivot]
  have callable := Claimant.claims_callable_iff ⟨by decide, by decide +kernel⟩ described framed
  constructor
  · intro inOrder
    exact Claimant.sends_unless analyze 7 rfl described [2] (by decide +kernel)
      (by simpa [Claimant.all] using left) (callable.mpr inOrder)
  · intro noCallable
    have refused := Bool.eq_false_iff.mpr (mt callable.mp noCallable)
    refine Claimant.sends_unless analyze 8 rfl described [2, 7] (by decide +kernel)
      (by simpa [Claimant.all] using And.intro left refused) ?_
    rw [Claimant.claims_mixin, isUndefinedProperty, occurs, Bool.or_true]

end Message

/-- The fixer of mixins gets a message if and only if the pivot of a relation is not defined, and of
the fixers that are asked earlier none claims it; the fixer of properties does not. -/
theorem Registry.standard_mixin_iff (analyze : Analyzer) (issue : Issue) :
    ((standard analyze).claimant? issue).map (·.name) = some "MixinFixer" ↔
      Message.isUndefinedProperty issue.message = true ∧
      Message.propertyName? issue.message = some Fixer.pivot ∧
      ∀ earlier ∈ (Fixer.builtins analyze).take 8, earlier.name ≠ "MissingPropertyDocblockFixer" →
        earlier.claims issue = false := by
  have distinct := Fixer.builtins_names_nodup analyze
  have property : ∀ fixer ∈ (Fixer.builtins analyze).take 8,
      fixer.name = "MissingPropertyDocblockFixer" →
        fixer.claims issue = Claimant.property.claims issue.message := by
    intro fixer member named
    have same := List.inj_on_of_nodup_map distinct (List.mem_of_mem_take member)
      (List.mem_of_getElem? (i := 2) rfl) named
    rw [same]
    rfl
  rw [standard_claimant?]
  refine (find?_key_iff distinct (i := 8) rfl).trans ?_
  constructor
  · rintro ⟨claimed, before⟩
    have noMethod : Message.isUndefinedMethod issue.message = false :=
      before _ (List.mem_of_getElem? (i := 5) rfl)
    have left : Claimant.property.claims issue.message = false :=
      before _ (List.mem_of_getElem? (i := 2) rfl)
    have undefined : Message.isUndefinedProperty issue.message = true := by
      have mixin : Claimant.mixin.claims issue.message = true := claimed
      rwa [Claimant.claims_mixin, noMethod, Bool.false_or] at mixin
    rw [Claimant.claims_property, undefined, Bool.true_and, bne_eq_false_iff_eq] at left
    exact ⟨undefined, left, fun earlier member _ => before earlier member⟩
  · rintro ⟨undefined, pivot, others⟩
    have mixin : Claimant.mixin.claims issue.message = true := by
      rw [Claimant.claims_mixin, undefined, Bool.or_true]
    refine ⟨mixin, ?_⟩
    intro earlier member
    by_cases named : earlier.name = "MissingPropertyDocblockFixer"
    · rw [property earlier member named, Claimant.claims_property, pivot, bne_self_eq_false,
        Bool.and_false]
    · exact others earlier member named

open Message in
/-- Without a configuration the messages about value types go by the words in their names, and the
pivot of a relation goes to the fixer of mixins, which gets nothing else. -/
theorem names_decide_fixers (analyze : Analyzer) (catalogue : Plugin.Catalogue)
    {owner method parameter : Text} (ownerName : IsClassName owner) (methodName : IsName method)
    (parameterName : IsName parameter) :
    ∃ registry, Plugin.assemble analyze catalogue {} = .ok registry ∧
      registry.SendsByNames (noValueType owner method parameter) [owner, method, parameter]
        "IterableValueTypeFixer" ∧
      registry.SendsByNames (noReturnValueType owner method) [owner, method]
        "IterableValueTypeFixer" ∧
      (MentionedInOrder "callable" "invoked" [owner] →
        registry.Sends (unknownProperty owner "pivot") "CallableTypeFixer") ∧
      (¬MentionedInOrder "callable" "invoked" [owner] →
        registry.Sends (unknownProperty owner "pivot") "MixinFixer") ∧
      ∀ issue : Issue, (registry.claimant? issue).map (·.name) = some "MixinFixer" ↔
        isUndefinedProperty issue.message = true ∧
        propertyName? issue.message = some "pivot" ∧
        ∀ earlier ∈ (Fixer.builtins analyze).take 8,
          earlier.name ≠ "MissingPropertyDocblockFixer" → earlier.claims issue = false :=
  ⟨.standard analyze, Plugin.assemble_standard analyze catalogue,
    noValueType_sends ownerName methodName parameterName,
    noReturnValueType_sends ownerName methodName, (pivot_sends ownerName).1,
    (pivot_sends ownerName).2, Registry.standard_mixin_iff analyze⟩

/-- A method called `pure` misleads, and the pivot of a relation goes to the fixer of mixins. -/
theorem names_decide_fixers_sample :
    ∃ registry, Plugin.assemble Php.declarations? [] {} = .ok registry ∧
      registry.Sends ("Method Role::all() has parameter $items with no value type specified " ++
        "in iterable type array.") "IterableValueTypeFixer" ∧
      registry.Sends ("Method Role::pure() has parameter $items with no value type specified " ++
        "in iterable type array.") "ImpureFunctionFixer" ∧
      registry.Sends "Access to an undefined property Role::$pivot." "MixinFixer" := by
  have owner : IsClassName "Role" := ⟨by decide, by decide⟩
  have plain : IsName "all" := ⟨by decide, by decide⟩
  have pure : IsName "pure" := ⟨by decide, by decide⟩
  have parameter : IsName "items" := ⟨by decide, by decide⟩
  obtain ⟨registry, assembled, own, -, -, pivot, -⟩ :=
    names_decide_fixers Php.declarations? [] owner plain parameter
  obtain ⟨registry', assembled', misled, -⟩ :=
    names_decide_fixers Php.declarations? [] owner pure parameter
  obtain rfl : registry = registry' := Except.ok.inj (assembled.symm.trans assembled')
  have own := own.neither (mt MentionedInOrder.mentions (by decide +kernel))
    (mt MentionsPurity.mentions (by decide +kernel))
  have misled := misled.purity (mt MentionedInOrder.mentions (by decide +kernel))
    ⟨"pure", by decide, .inr ⟨[], "pure", [], rfl, by decide, rfl, rfl⟩⟩
  have pivot := pivot (mt MentionedInOrder.mentions (by decide +kernel))
  simp only [Message.noValueType, Message.unknownProperty, Text.ofString_append,
    String.reduceAppend] at own misled pivot ⊢
  exact ⟨registry, assembled, own, misled, pivot⟩

end DocRepair
