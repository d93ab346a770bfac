import DocRepair.Policy.Configuration
import DocRepair.Proofs.OrderedMap
import DocRepair.Proofs.Outcome
import DocRepair.Proofs.Policy.Wildcard
import DocRepair.Proofs.Text.Pieces

/-!
Which rule governs a message.

A rule that is the message comes before all others. Of the rules with an expression or a wildcard
the first one that is found in the message counts, and where there is none the fallback. So the
place of a rule that is compared with the message as a whole makes no difference.
-/

namespace DocRepair

/-! ### Patterns between slashes -/

namespace Delimited

/-- A pattern spells an expression between slashes with flags after it, and perhaps a line feed. -/
structure Spells (d : Delimited) (pattern : Text) : Prop where
  body : d.body ≠ []
  flags : ∀ c ∈ d.flags, isFlag c = true
  text : pattern = "/" ++ d.body ++ "/" ++ d.flags ∨
    pattern = "/" ++ d.body ++ "/" ++ d.flags ++ Text.newline

private theorem slash_text : Text.ofString "/" = [CodePoint.ofChar '/'] :=
  rfl

/-- What follows the last slash, less a line feed at its end. -/
private def flagsOf (after : Text) : Text :=
  if after.getLast? == some (CodePoint.ofChar '\n') then after.dropLast else after

private theorem ofText?_cons (c : CodePoint) (rest : Text) :
    ofText? (c :: rest) = if c = '/' then
      (Text.cutLast? rest [CodePoint.ofChar '/']).bind fun (body, after) =>
        if !body.isEmpty && (flagsOf after).all isFlag then some ⟨body, flagsOf after⟩ else none
      else none := by
  rw [ofText?, slash_text]
  cases Text.cutLast? rest [CodePoint.ofChar '/'] <;> rfl

private theorem eq_of_flagsOf (after : Text) :
    after = flagsOf after ∨ after = flagsOf after ++ Text.newline := by
  unfold flagsOf
  by_cases feed : after.getLast? = some (CodePoint.ofChar '\n')
  · right
    rw [if_pos (by simpa using feed)]
    exact (List.dropLast_append_getLast? _ feed).symm
  · left
    rw [if_neg (by simpa using feed)]

private theorem flagsOf_flags {flags : Text} (valid : ∀ c ∈ flags, isFlag c = true) :
    flagsOf flags = flags ∧ flagsOf (flags ++ Text.newline) = flags := by
  constructor
  · apply if_neg
    intro feed
    have last := List.mem_of_getLast? (beq_iff_eq.mp feed)
    exact absurd (valid _ last) (by decide)
  · simp [flagsOf, Text.newline]

theorem ofText?_eq_some_iff {pattern : Text} {d : Delimited} :
    ofText? pattern = some d ↔ d.Spells pattern := by
  constructor
  · intro read
    cases pattern with
    | nil => cases read
    | cons c rest =>
      rw [ofText?_cons] at read
      split at read
      · rename_i slash
        obtain ⟨⟨body, after⟩, cut, checked⟩ := Option.bind_eq_some_iff.mp read
        obtain ⟨rfl, -⟩ := Text.cutLast?_eq_some_iff.mp cut
        simp only [Option.ite_none_right_eq_some, Option.some.injEq, Bool.and_eq_true,
          Bool.not_eq_true', List.isEmpty_eq_false_iff, List.all_eq_true] at checked
        obtain ⟨⟨nonempty, valid⟩, rfl⟩ := checked
        refine ⟨nonempty, valid, ?_⟩
        rcases eq_of_flagsOf after with same | feed
        · left
          simp [slash_text, slash, ← same]
        · right
          simp [slash_text, slash, ← feed]
      · cases read
  · rintro ⟨nonempty, valid, text⟩
    obtain ⟨after, rfl, flags⟩ : ∃ after : Text, pattern = "/" ++ (d.body ++ ("/" ++ after)) ∧
        (after = d.flags ∨ after = d.flags ++ Text.newline) := by
      rcases text with rfl | rfl
      · exact ⟨d.flags, by simp only [List.append_assoc], .inl rfl⟩
      · exact ⟨d.flags ++ Text.newline, by simp only [List.append_assoc], .inr rfl⟩
    -- No flag is a slash, so the body ends at the last slash.
    have last : CodePoint.ofChar '/' ∉ after := by
      have free : CodePoint.ofChar '/' ∉ d.flags := fun slash => absurd (valid _ slash) (by decide)
      rcases flags with rfl | rfl
      · exact free
      · simpa [Text.newline, CodePoint.ofChar] using free
    have cut : flagsOf after = d.flags := by
      rcases flags with rfl | rfl
      · exact (flagsOf_flags valid).1
      · exact (flagsOf_flags valid).2
    have split : Text.cutLast? (d.body ++ ("/" ++ after)) [CodePoint.ofChar '/'] =
        some (d.body, after) :=
      Text.cutLast?_eq_some_iff.mpr ⟨rfl, last⟩
    rw [slash_text] at split ⊢
    rw [List.singleton_append, ofText?_cons, if_pos rfl, split, Option.bind_some]
    simpa [cut, nonempty] using valid

end Delimited

/-! ### What patterns ask of messages -/

namespace Rules

/-- A pattern is compared with a message as a whole: it has no slashes around it and no star. -/
def IsPlain (pattern : Text) : Prop :=
  (∀ d : Delimited, ¬d.Spells pattern) ∧ CodePoint.ofChar '*' ∉ pattern

/-- A pattern is found in a message: its expression is, or it is a wildcard that covers it. -/
inductive Found (re : Expressions) (covers : Text → Text → Prop) (pattern message : Text) : Prop
  | expression (d : Delimited) (found : Text → Bool) (spelled : d.Spells pattern)
    (read : re.read d.body d.switches = .ok found) (here : found message = true)
  | wildcard (unspelled : ∀ d : Delimited, ¬d.Spells pattern)
    (star : CodePoint.ofChar '*' ∈ pattern) (covered : covers pattern message)

theorem isDelimited_eq_false_iff (pattern : Text) :
    isDelimited pattern = false ↔ ∀ d : Delimited, ¬d.Spells pattern := by
  simp only [isDelimited, Option.isSome_eq_false_iff, Option.isNone_iff_eq_none,
    Option.eq_none_iff_forall_ne_some, ne_eq, Delimited.ofText?_eq_some_iff]

theorem isExact_iff (pattern : Text) : isExact pattern = true ↔ IsPlain pattern := by
  rw [isExact, Bool.and_eq_true, Bool.not_eq_true', isDelimited_eq_false_iff, IsPlain]
  simp

instance : DecidablePred IsPlain := fun pattern =>
  decidable_of_iff _ (isExact_iff pattern)

variable {re : Expressions}

theorem Found.mono {covers other : Text → Text → Prop} {pattern message : Text}
    (wider : covers pattern message → other pattern message)
    (found : Found re covers pattern message) :
    Found re other pattern message := by
  cases found with
  | expression d found spelled read here => exact .expression d found spelled read here
  | wildcard unspelled star covered => exact .wildcard unspelled star (wider covered)

theorem ofText?_eq_none {pattern : Text} (unspelled : ∀ d : Delimited, ¬d.Spells pattern) :
    Delimited.ofText? pattern = none := by
  rw [Option.eq_none_iff_forall_ne_some]
  intro d spelled
  exact unspelled d (Delimited.ofText?_eq_some_iff.mp spelled)

theorem searches_of_spells {d : Delimited} {pattern : Text} (spelled : d.Spells pattern)
    (message : Text) : searches re pattern message = true ↔
      ∃ found, re.read d.body d.switches = .ok found ∧ found message = true := by
  have test : testOf re pattern = (re.read d.body d.switches).map .search := by
    rw [testOf, Delimited.ofText?_eq_some_iff.mpr spelled]
    rfl
  rw [searches, test]
  cases re.read d.body d.switches with
  | error _ => simp [Except.map]
  | ok found => simp [Except.map]

theorem searches_of_star {pattern : Text} (unspelled : ∀ d : Delimited, ¬d.Spells pattern)
    (star : CodePoint.ofChar '*' ∈ pattern) (message : Text) :
    searches re pattern message = (Wildcard.compile pattern false).occursIn message := by
  have starred : pattern.contains (CodePoint.ofChar '*') = true := by simpa using star
  simp only [searches, testOf, ofText?_eq_none unspelled, starred, if_true]

theorem searches_of_isPlain {pattern : Text} (plain : IsPlain pattern) (message : Text) :
    searches re pattern message = false := by
  have unstarred : pattern.contains (CodePoint.ofChar '*') = false := by simpa using plain.2
  simp only [searches, testOf, ofText?_eq_none plain.1, unstarred, Bool.false_eq_true, if_false]

theorem searches_iff (pattern message : Text) :
    searches re pattern message = true ↔ Found re Wildcard.CoversLine pattern message := by
  constructor
  · intro searched
    by_cases delimited : ∃ d : Delimited, d.Spells pattern
    · obtain ⟨d, spelled⟩ := delimited
      obtain ⟨found, read, here⟩ := (searches_of_spells spelled message).mp searched
      exact .expression d found spelled read here
    · have unspelled := not_exists.mp delimited
      by_cases star : CodePoint.ofChar '*' ∈ pattern
      · rw [searches_of_star unspelled star, Wildcard.compile_occursIn_iff] at searched
        exact .wildcard unspelled star searched
      · rw [searches_of_isPlain ⟨unspelled, star⟩] at searched
        cases searched
  · rintro (⟨d, found, spelled, read, here⟩ | ⟨unspelled, star, covered⟩)
    · exact (searches_of_spells spelled message).mpr ⟨found, read, here⟩
    · rw [searches_of_star unspelled star, Wildcard.compile_occursIn_iff]
      exact covered

/-! ### The rule that governs a message -/

/-- The action that rules and a fallback ask for: that of a rule which is the message, else that of
the first rule which is found in it, else the fallback. -/
inductive Governs (re : Expressions) (covers : Text → Text → Prop) (rules : List (Text × Action))
    (fallback : Action) (message : Text) : Action → Prop
  | exact {action : Action} (plain : IsPlain message) (rule : (message, action) ∈ rules) :
    Governs re covers rules fallback message action
  | first {front rest : List (Text × Action)} {pattern : Text} {action : Action}
    (noExact : IsPlain message → ∀ other, (message, other) ∉ rules)
    (split : rules = front ++ (pattern, action) :: rest)
    (before : ∀ rule ∈ front, ¬Found re covers rule.1 message)
    (found : Found re covers pattern message) :
    Governs re covers rules fallback message action
  | default (noExact : IsPlain message → ∀ other, (message, other) ∉ rules)
    (nowhere : ∀ rule ∈ rules, ¬Found re covers rule.1 message) :
    Governs re covers rules fallback message fallback

section Governing

variable {covers : Text → Text → Prop} {rules : List (Text × Action)} {fallback : Action}
  {message : Text}

theorem Governs.congr {other : Text → Text → Prop} {action : Action}
    (same : ∀ wildcard, covers wildcard message ↔ other wildcard message)
    (governs : Governs re covers rules fallback message action) :
    Governs re other rules fallback message action := by
  have back : ∀ {pattern}, Found re other pattern message → Found re covers pattern message :=
    fun found => found.mono (same _).mpr
  cases governs with
  | exact plain rule => exact .exact plain rule
  | first noExact split before found =>
    exact .first noExact split (fun rule member there => before rule member (back there))
      (found.mono (same _).mp)
  | default noExact nowhere =>
    exact .default noExact fun rule member there => nowhere rule member (back there)

theorem exactRule?_eq_none_iff :
    (rules.find? fun (pattern, _) => isExact pattern && pattern == message) = none ↔
      (IsPlain message → ∀ other, (message, other) ∉ rules) := by
  rw [List.find?_eq_none]
  constructor
  · intro absent plain other member
    exact absent _ member (by simp [(isExact_iff message).mpr plain])
  · rintro absent ⟨pattern, action⟩ member same
    rw [Bool.and_eq_true, beq_iff_eq] at same
    obtain ⟨plain, rfl⟩ := same
    exact absent ((isExact_iff pattern).mp plain) action member

theorem exactRule?_eq_some_iff (distinct : (rules.map (·.1)).Nodup) {rule : Text × Action} :
    (rules.find? fun (pattern, _) => isExact pattern && pattern == message) = some rule ↔
      rule.1 = message ∧ IsPlain message ∧ rule ∈ rules := by
  constructor
  · intro found
    have same := List.find?_some found
    rw [Bool.and_eq_true, beq_iff_eq] at same
    exact ⟨same.2, (isExact_iff message).mp (same.2 ▸ same.1), List.mem_of_find?_eq_some found⟩
  · rintro ⟨rfl, plain, member⟩
    cases found : rules.find? fun (pattern, _) => isExact pattern && pattern == rule.1 with
    | none => exact absurd member (exactRule?_eq_none_iff.mp found plain _)
    | some other =>
      have same := List.find?_some found
      rw [Bool.and_eq_true, beq_iff_eq] at same
      rw [List.inj_on_of_nodup_map distinct (List.mem_of_find?_eq_some found) member same.2]

/-- The action for a message is the one that the rules ask for, if no pattern has two rules. -/
theorem actionFor_iff {r : Rules} (distinct : (r.entries.map (·.1)).Nodup) {action : Action} :
    r.actionFor re message = action ↔
      Governs re Wildcard.CoversLine r.entries r.fallback message action := by
  constructor
  · rintro rfl
    unfold actionFor
    split
    · rename_i rule _ found
      obtain ⟨rfl, plain, member⟩ := (exactRule?_eq_some_iff distinct).mp found
      exact .exact plain member
    · rename_i missing
      have noExact := exactRule?_eq_none_iff.mp missing
      split
      · rename_i rule _ found
        obtain ⟨here, front, rest, split, before⟩ := List.find?_eq_some_iff_append.mp found
        refine .first noExact split ?_ ((searches_iff _ _).mp here)
        intro rule member there
        have unfound : (!searches re rule.1 message) = true := before rule member
        rw [(searches_iff _ _).mpr there] at unfound
        cases unfound
      · rename_i unfound
        refine .default noExact fun rule member there => ?_
        exact List.find?_eq_none.mp unfound rule member ((searches_iff _ _).mpr there)
  · intro governs
    unfold actionFor
    cases governs with
    | exact plain rule => rw [(exactRule?_eq_some_iff distinct).mpr ⟨rfl, plain, rule⟩]
    | @first front rest pattern _ noExact split before found =>
      have searched : (r.entries.find? fun (pattern, _) => searches re pattern message) =
          some (pattern, action) := by
        refine List.find?_eq_some_iff_append.mpr
          ⟨(searches_iff _ _).mpr found, front, rest, split, fun rule member => ?_⟩
        rw [Bool.not_eq_true', Bool.eq_false_iff, ne_eq, searches_iff]
        exact before rule member
      rw [exactRule?_eq_none_iff.mpr noExact, searched]
    | default noExact nowhere =>
      have unfound : (r.entries.find? fun (pattern, _) => searches re pattern message) = none := by
        refine List.find?_eq_none.mpr fun rule member => ?_
        rw [searches_iff]
        exact nowhere rule member
      rw [exactRule?_eq_none_iff.mpr noExact, unfound]

/-- Where the rules that are compared with the message as a whole stand makes no difference. -/
theorem actionFor_reordered {r other : Rules} (distinct : (r.entries.map (·.1)).Nodup)
    (sameRules : other.entries.Perm r.entries) (sameFallback : other.fallback = r.fallback)
    (sameOrder : other.entries.filter (fun rule => ¬IsPlain rule.1) =
      r.entries.filter fun rule => ¬IsPlain rule.1) (message : Text) :
    other.actionFor re message = r.actionFor re message := by
  have exacts : (other.entries.find? fun (pattern, _) => isExact pattern && pattern == message) =
      r.entries.find? fun (pattern, _) => isExact pattern && pattern == message := by
    have distinct' : (other.entries.map (·.1)).Nodup := (sameRules.map _).nodup_iff.mpr distinct
    apply Option.ext
    intro rule
    rw [exactRule?_eq_some_iff distinct, exactRule?_eq_some_iff distinct', sameRules.mem_iff]
  have searched : ∀ rules : List (Text × Action),
      (rules.find? fun (pattern, _) => searches re pattern message) =
        (rules.filter fun rule => ¬IsPlain rule.1).find? fun (pattern, _) =>
          searches re pattern message := by
    intro rules
    rw [List.find?_filter]
    congr 1
    funext rule
    by_cases plain : IsPlain rule.1
    · simp [searches_of_isPlain plain]
    · simp [plain]
  unfold actionFor
  rw [exacts, searched other.entries, searched r.entries, sameOrder, sameFallback]

end Governing

end Rules

/-! ### The rules of a document -/

namespace Configuration

open Outcome

/-- The patterns of a section with their actions, in order; entries without an action are left
out. -/
def listedRules (entries : List (Datum × Datum)) : List (Text × Action) :=
  entries.filterMap fun (key, value) =>
    ((actionWord? value).bind Action.ofText?).map (keyText key, ·)

/-- The rules that a document declares, in order; of two for one pattern the last action counts. -/
def declaredRules (document : Datum) : OrderedMap Text Action :=
  .ofPairs (listedRules (((document.get? "rules").bind Datum.map?).getD []))

/-- The action that a document declares for all other messages. -/
def declaredFallback (document : Datum) : Action :=
  (((document.get? "default").bind actionWord?).bind Action.ofText?).getD .fix

theorem readRules_eq {entries : List (Datum × Datum)} {rules result : OrderedMap Text Action}
    (read : readRules entries rules = .ok result) :
    result = rules.putAll (listedRules entries) := by
  fun_induction readRules entries rules with
  | case1 rules => exact (Except.ok.inj read).symm
  | case2 rules key value rest none ih => simpa [listedRules, none] using ih read
  | case3 => cases read
  | case4 rules key value rest word found action known ih =>
    simpa [listedRules, found, known, OrderedMap.putAll] using ih read

theorem readFallback_eq {entries : List (Datum × Datum)} {action : Action}
    (read : readFallback entries = .ok action) :
    action =
      (((Datum.lookup entries "default").bind actionWord?).bind Action.ofText?).getD .fix := by
  unfold readFallback at read
  split at read
  · rename_i none
    rw [none]
    exact (Except.ok.inj read).symm
  · rename_i word found
    rw [found]
    split at read
    · cases read
    · rename_i known
      rw [Option.bind_some, known]
      exact (Except.ok.inj read).symm

theorem exists_of_checkExpressions {re : Expressions} {patterns : List Text}
    (checked : checkExpressions re patterns = .ok ()) {pattern : Text}
    (member : pattern ∈ patterns) {d : Delimited} (spelled : d.Spells pattern) :
    ∃ found, re.read d.body d.switches = .ok found := by
  have read := Delimited.ofText?_eq_some_iff.mpr spelled
  fun_induction checkExpressions re patterns with
  | case1 => cases member
  | case2 first rest none ih =>
    rcases List.mem_cons.mp member with rfl | later
    · rw [read] at none
      cases none
    · exact ih checked later
  | case3 first rest delimited same found compiled ih =>
    rcases List.mem_cons.mp member with rfl | later
    · obtain rfl := Option.some.inj (read.symm.trans same)
      exact ⟨found, compiled⟩
    · exact ih checked later
  | case4 => cases checked

/-- The entries of a section; a section that is absent has none. -/
def entriesOf (found : Option Datum) : List (Datum × Datum) :=
  (found.bind Datum.map?).getD []

/-- A value that may be absent is a mapping. -/
def IsSection (found : Option Datum) : Prop :=
  ∀ value, found = some value → ∃ entries, value = .map entries

theorem mapping_eq_ok_iff {entries inside : List (Datum × Datum)} {key label : Text} :
    mapping entries key label = .ok inside ↔
      IsSection (Datum.lookup entries key) ∧ inside = entriesOf (Datum.lookup entries key) := by
  unfold mapping IsSection entriesOf
  cases Datum.lookup entries key with
  | none => simp [eq_comm]
  | some value => cases value <;> simp [Datum.map?, eq_comm]

/-- A configuration has the rules and the fallback of its document, and all its expressions can be
read. -/
theorem ofDatum_rules {re : Expressions} {document : Datum} {c : Configuration}
    (built : ofDatum re document = .ok c) :
    c.rules = ⟨declaredRules document, declaredFallback document⟩ ∧
      checkExpressions re ((declaredRules document).map (·.1)) = .ok () := by
  obtain ⟨entries, rfl⟩ : ∃ entries, document = .map entries := by
    cases document with
    | map entries => exact ⟨entries, rfl⟩
    | _ => cases built
  simp only [ofDatum, bind_eq_ok_iff] at built
  obtain ⟨_, same, ruleEntries, inside, rules, read, fallback, default, _, -, _, -, _, -, _, -,
    _, -, _, -, _, -, built⟩ := built
  obtain rfl := Except.ok.inj same
  split at built
  · obtain ⟨_, thrown, -⟩ := bind_eq_ok_iff.mp built
    cases thrown
  · simp only [bind_eq_ok_iff] at built
    obtain ⟨_, -, _, checked, built⟩ := built
    obtain rfl := Except.ok.inj built
    have declared : rules = declaredRules (.map entries) := by
      rw [readRules_eq read, (mapping_eq_ok_iff.mp inside).2]
      rfl
    rw [← declared, readFallback_eq default]
    exact ⟨rfl, checked⟩

end Configuration

open DocRepair.Configuration Rules Wildcard in
/-- The action for a message follows the rules of the document in their order of precedence,
whatever expressions mean: in a message of one line a star stands for any run, in any other one for
a run within a line. -/
theorem policy_precedence {re : Expressions} {document : Datum} {c : Configuration}
    (built : ofDatum re document = .ok c) :
    c.rules = ⟨declaredRules document, declaredFallback document⟩ ∧
      (∀ entries, document.get? "rules" = some (.map entries) →
        ((listedRules entries).map (·.1)).Nodup → declaredRules document = listedRules entries) ∧
      (∀ rule ∈ declaredRules document, ∀ d : Delimited, d.Spells rule.1 →
        ∃ found, re.read d.body d.switches = .ok found) ∧
      (∀ message action, c.actionFor re message = action ↔
        Governs re CoversLine (declaredRules document) (declaredFallback document) message
          action) ∧
      (∀ message action, CodePoint.ofChar '\n' ∉ message → (c.actionFor re message = action ↔
        Governs re CoversWhole (declaredRules document) (declaredFallback document) message
          action)) ∧
      ∀ other reordered, ofDatum re other = .ok reordered →
        declaredFallback other = declaredFallback document →
        (declaredRules other).Perm (declaredRules document) →
        (declaredRules other).filter (fun rule => ¬IsPlain rule.1) =
          (declaredRules document).filter (fun rule => ¬IsPlain rule.1) →
        ∀ message, reordered.actionFor re message = c.actionFor re message := by
  obtain ⟨rules, checked⟩ := ofDatum_rules built
  have distinct : (c.rules.entries.map (·.1)).Nodup := by
    rw [rules]
    exact OrderedMap.keys_ofPairs_nodup _
  have governed : ∀ message action, c.actionFor re message = action ↔ Governs re CoversLine
      (declaredRules document) (declaredFallback document) message action := by
    intro message action
    rw [Configuration.actionFor, actionFor_iff distinct, rules]
  refine ⟨rules, ?_, ?_, governed, ?_, ?_⟩
  · intro entries listed distinct
    rw [declaredRules, listed]
    exact OrderedMap.ofPairs_of_nodup distinct
  · intro rule member d spelled
    exact exists_of_checkExpressions checked (List.mem_map_of_mem member) spelled
  · intro message action oneLine
    have same : ∀ wildcard, CoversLine wildcard message ↔ CoversWhole wildcard message :=
      fun wildcard => coversLine_iff oneLine
    rw [governed]
    exact ⟨Governs.congr same, Governs.congr fun wildcard => (same wildcard).symm⟩
  · intro other reordered built' sameFallback sameRules sameOrder message
    obtain ⟨rules', -⟩ := ofDatum_rules built'
    apply actionFor_reordered distinct
    · rw [rules, rules']
      exact sameRules
    · rw [rules, rules']
      exact sameFallback
    · rw [rules, rules']
      exact sameOrder

/-- A document with rules only. -/
def Datum.ofRules (rules : List (Text × Action)) : Datum :=
  .map [(.text "rules", .map (rules.map fun (pattern, action) =>
    (.text pattern, .text action.text)))]

open DocRepair.Configuration Rules in
/-- A wildcard, an expression and a text, with the text last and first. -/
theorem policy_precedence_sample :
    let wildcard : Text × Action := ("Foo*", .ignore)
    let expression : Text × Action := ("/BAR/i", .report)
    let text : Text × Action := ("Foo bar", .fix)
    ∃ c reordered, ofDatum .standard (.ofRules [wildcard, expression, text]) = .ok c ∧
      ofDatum .standard (.ofRules [text, wildcard, expression]) = .ok reordered ∧
      c.actionFor .standard "Foo bar" = .fix ∧
      ∀ message, reordered.actionFor .standard message = c.actionFor .standard message := by
  intro wildcard expression text
  have built : ofDatum .standard (.ofRules [wildcard, expression, text]) =
      .ok { rules := ⟨[wildcard, expression, text], .fix⟩ } := by
    decide +kernel
  have built' : ofDatum .standard (.ofRules [text, wildcard, expression]) =
      .ok { rules := ⟨[text, wildcard, expression], .fix⟩ } := by
    decide +kernel
  obtain ⟨_, -, -, -, resolved, reorder⟩ := policy_precedence built
  refine ⟨_, _, built, built', ?_, reorder _ _ built' rfl ?_ ?_⟩
  · refine (resolved "Foo bar" .fix (by decide)).mpr (.exact (by decide) ?_)
    exact List.mem_cons_of_mem _ (List.mem_cons_of_mem _ List.mem_cons_self)
  · exact @List.perm_append_comm _ [text] [wildcard, expression]
  · decide

end DocRepair
