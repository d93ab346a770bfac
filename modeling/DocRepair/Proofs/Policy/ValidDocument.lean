import DocRepair.Policy.ConfigurationFile
import DocRepair.Proofs.Json.DecodedValues
import DocRepair.Proofs.Policy.Precedence
import Mathlib.Data.Set.List

/-!
Which documents are configurations.

A configuration is built exactly from the documents whose sections have the right form, whose words
for actions are words of actions, and whose rules have patterns that can be read. Its rules are
those that ask for an action, in the order of the document; what only looks like a rule is left out.
-/

namespace DocRepair

theorem Action.ofText?_eq_some_iff {word : Text} {action : Action} :
    ofText? word = some action ↔ word = action.text := by
  constructor
  · intro found
    have same := List.find?_some found
    exact (beq_iff_eq.mp same).symm
  · rintro rfl
    cases action <;> rfl

theorem Action.ofText?_eq_none_iff {word : Text} :
    ofText? word = none ↔ ¬∃ action : Action, word = action.text := by
  simp only [Option.eq_none_iff_forall_ne_some, ne_eq, ofText?_eq_some_iff, not_exists]

namespace Configuration

open Outcome

/-! ### Valid documents -/

/-- A value asks for an action by a word: it is the word, or has it under `action`. -/
def AsksFor (value : Datum) (word : Text) : Prop :=
  value = .text word ∨ value.get? "action" = some (.text word)

/-- A document has a rule: a pattern whose value asks for an action by a word. -/
def HasRule (document : Datum) (pattern word : Text) : Prop :=
  ∃ value, (.text pattern, value) ∈ entriesOf (document.get? "rules") ∧ AsksFor value word

/-- A pattern that can be matched: it is not empty, and its expression, if it spells one, can be
read. -/
structure Usable (re : Expressions) (pattern : Text) : Prop where
  nonempty : pattern ≠ []
  readable : ∀ d : Delimited, d.Spells pattern → ∃ found, re.read d.body d.switches = .ok found

/-- A value that may be absent is a list of texts. -/
def IsTexts (found : Option Datum) : Prop :=
  ∀ value, found = some value → ∃ ts : List Text, value = .list (ts.map .text)

def fixerSetting? (document : Datum) (key : Text) : Option Datum :=
  (document.get? "fixers").bind (·.get? key)

/-- Documents that are configurations. -/
structure Valid (re : Expressions) (document : Datum) : Prop where
  root : ∃ entries, document = .map entries
  rules : IsSection (document.get? "rules")
  actions : ∀ pattern word, HasRule document pattern word → ∃ action : Action, word = action.text
  patterns : ∀ pattern word, HasRule document pattern word → Usable re pattern
  fallback : ∀ value, document.get? "default" = some value → ∀ word, AsksFor value word →
    ∃ action : Action, word = action.text
  fixers : IsSection (document.get? "fixers")
  priorities : IsSection (fixerSetting? document "priorities")
  integers : ∀ entry ∈ entriesOf (fixerSetting? document "priorities"), ∃ n, entry.2 = .int n
  enabled : IsTexts (fixerSetting? document "enabled")
  disabled : IsTexts (fixerSetting? document "disabled")
  customFixers : IsTexts (document.get? "custom_fixers")
  includePaths : IsTexts (document.get? "include_paths")
  excludePaths : IsTexts (document.get? "exclude_paths")

/-- Rules are those of the entries that ask for an action, in order. -/
inductive Kept : List (Datum × Datum) → List (Text × Action) → Prop
  | nil : Kept [] []
  | leave {key value : Datum} {rest : List (Datum × Datum)} {rules : List (Text × Action)}
    (silent : ∀ word, ¬AsksFor value word) (kept : Kept rest rules) :
    Kept ((key, value) :: rest) rules
  | keep {pattern : Text} {value : Datum} {action : Action} {rest : List (Datum × Datum)}
    {rules : List (Text × Action)} (asks : AsksFor value action.text) (kept : Kept rest rules) :
    Kept ((.text pattern, value) :: rest) ((pattern, action) :: rules)

/-! ### Values of one section -/

theorem actionWord?_eq_some_iff {value : Datum} {word : Text} :
    actionWord? value = some word ↔ AsksFor value word := by
  cases value with
  | text t => simp [actionWord?, AsksFor, Datum.get?, Datum.map?]
  | map entries =>
    simp [actionWord?, AsksFor, Datum.get?, Datum.map?, Datum.bind_text?_eq_some_iff]
  | _ => simp [actionWord?, AsksFor, Datum.get?, Datum.map?]

theorem actionWord?_eq_none_iff {value : Datum} :
    actionWord? value = none ↔ ∀ word, ¬AsksFor value word := by
  simp only [Option.eq_none_iff_forall_ne_some, ne_eq, actionWord?_eq_some_iff]

section Sections

variable {entries : List (Datum × Datum)} {key label : Text}

theorem texts_succeeds_iff :
    (∃ ts, texts entries key label = .ok ts) ↔ IsTexts (Datum.lookup entries key) := by
  have all_texts : ∀ items : List Datum, (items.all (·.text?.isSome)) = true ↔
      ∃ ts : List Text, items = ts.map .text := by
    intro items
    have one : ∀ item : Datum, item.text?.isSome = true ↔ item ∈ Set.range Datum.text := by
      intro item
      cases item <;> simp [Datum.text?]
    have range : (∃ ts : List Text, items = ts.map .text) ↔ items ∈ Set.range (List.map .text) := by
      simp only [Set.mem_range, eq_comm]
    rw [range, Set.range_list_map, List.all_eq_true]
    exact forall₂_congr fun item _ => one item
  unfold texts IsTexts
  cases Datum.lookup entries key with
  | none => simp
  | some value =>
    cases value with
    | list items =>
      by_cases every : items.all (·.text?.isSome) = true
      · simpa [every] using (all_texts items).mp every
      · simpa [every] using (all_texts items).not.mp every
    | _ => simp

/-- A section is read as far as its words are words of actions. -/
theorem readRules_succeeds_iff {rules : OrderedMap Text Action} :
    (∃ result, readRules entries rules = .ok result) ↔
      ∀ entry ∈ entries, ∀ word, AsksFor entry.2 word → ∃ action : Action, word = action.text := by
  fun_induction readRules entries rules with
  | case1 rules => simp
  | case2 rules key value rest silent ih =>
    rw [ih, List.forall_mem_cons, and_iff_right]
    exact fun word asks => absurd asks (actionWord?_eq_none_iff.mp silent word)
  | case3 rules key value rest word found unknown =>
    have asks := actionWord?_eq_some_iff.mp found
    have refused := Action.ofText?_eq_none_iff.mp unknown
    simp only [reduceCtorEq, exists_const, false_iff]
    exact fun known => refused (known _ List.mem_cons_self word asks)
  | case4 rules key value rest word found action known ih =>
    rw [ih, List.forall_mem_cons, and_iff_right]
    intro other asks
    obtain rfl := Option.some.inj (found.symm.trans (actionWord?_eq_some_iff.mpr asks))
    exact ⟨action, Action.ofText?_eq_some_iff.mp known⟩

theorem readFallback_succeeds_iff :
    (∃ action, readFallback entries = .ok action) ↔
      ∀ value, Datum.lookup entries "default" = some value → ∀ word, AsksFor value word →
        ∃ action : Action, word = action.text := by
  unfold readFallback
  cases Datum.lookup entries "default" with
  | none => simp
  | some value =>
    simp only [Option.bind_some, Option.some.injEq, forall_eq', ← actionWord?_eq_some_iff]
    cases actionWord? value with
    | none => simp
    | some word =>
      simp only [Option.some.injEq, forall_eq']
      cases known : Action.ofText? word with
      | none => simpa using Action.ofText?_eq_none_iff.mp known
      | some action => simpa using ⟨action, Action.ofText?_eq_some_iff.mp known⟩

end Sections

theorem readPriorities_succeeds_iff {priorities : OrderedMap Text Datum} :
    (∃ read, readPriorities priorities = .ok read) ↔
      ∀ entry ∈ priorities, ∃ n, entry.2 = .int n := by
  unfold readPriorities
  induction priorities with
  | nil => exact ⟨fun _ => by simp, fun _ => ⟨[], rfl⟩⟩
  | cons entry rest ih =>
    obtain ⟨name, value⟩ := entry
    rw [List.forall_mem_cons, ← ih]
    simp only [List.mapM_cons, bind_eq_ok_iff]
    cases value with
    | int n => simp [pure, Except.pure]
    | _ => simp

theorem checkExpressions_succeeds_iff {re : Expressions} {patterns : List Text} :
    (∃ done, checkExpressions re patterns = .ok done) ↔ ∀ pattern ∈ patterns, ∀ d : Delimited,
      d.Spells pattern → ∃ found, re.read d.body d.switches = .ok found := by
  refine ⟨fun ⟨_, checked⟩ pattern member d spelled =>
    exists_of_checkExpressions checked member spelled, fun readable => ?_⟩
  fun_induction checkExpressions re patterns with
  | case1 => exact ⟨(), rfl⟩
  | case2 pattern rest none ih => exact ih (List.forall_mem_cons.mp readable).2
  | case3 pattern rest d same found compiled ih =>
    exact ih (List.forall_mem_cons.mp readable).2
  | case4 pattern rest d same fault failed =>
    obtain ⟨found, read⟩ := readable pattern List.mem_cons_self d
      (Delimited.ofText?_eq_some_iff.mp same)
    rw [Delimited.read, read] at failed
    cases failed

/-! ### Rules in order -/

section Rules

variable {entries : List (Datum × Datum)} {rules : List (Text × Action)}

theorem kept_listedRules (named : ∀ entry ∈ entries, ∃ name, entry.1 = .text name)
    (known : ∀ entry ∈ entries, ∀ word, AsksFor entry.2 word → ∃ action : Action,
      word = action.text) : Kept entries (listedRules entries) := by
  induction entries with
  | nil => exact .nil
  | cons entry rest ih =>
    obtain ⟨key, value⟩ := entry
    obtain ⟨⟨name, rfl⟩, others⟩ := List.forall_mem_cons.mp named
    obtain ⟨here, later⟩ := List.forall_mem_cons.mp known
    have kept := ih others later
    cases asked : actionWord? value with
    | none =>
      have dropped : listedRules ((.text name, value) :: rest) = listedRules rest := by
        simp [listedRules, asked]
      rw [dropped]
      exact .leave (actionWord?_eq_none_iff.mp asked) kept
    | some word =>
      have asks := actionWord?_eq_some_iff.mp asked
      obtain ⟨action, rfl⟩ := here word asks
      have added : listedRules ((.text name, value) :: rest) =
          (name, action) :: listedRules rest := by
        rw [listedRules, List.filterMap_cons_some, listedRules]
        simp [asked, Action.ofText?_eq_some_iff.mpr rfl, keyText]
      rw [added]
      exact .keep asks kept

theorem Kept.keys_sublist (kept : Kept entries rules) :
    ((rules.map (·.1)).map Datum.text).Sublist (entries.map (·.1)) := by
  induction kept with
  | nil => exact .slnil
  | leave _ _ ih => exact ih.cons _
  | keep _ _ ih => exact ih.cons_cons _

theorem Kept.keys_nodup (kept : Kept entries rules) (named : Json.HasNames entries) :
    (rules.map (·.1)).Nodup := by
  obtain ⟨names, distinct, same⟩ := named
  have texts : (names.map Datum.text).Nodup := distinct.map fun _ _ => Datum.text.inj
  exact (texts.sublist (same ▸ kept.keys_sublist)).of_map _

theorem Kept.mem_keys_iff (kept : Kept entries rules) {pattern : Text} :
    pattern ∈ rules.map (·.1) ↔
      ∃ value, (.text pattern, value) ∈ entries ∧ ∃ word, AsksFor value word := by
  induction kept with
  | nil => simp
  | leave silent _ ih =>
    rw [ih]
    simp only [List.mem_cons, or_and_right, exists_or]
    refine (or_iff_right ?_).symm
    rintro ⟨_, same, word, asks⟩
    obtain ⟨-, rfl⟩ := Prod.mk.inj same
    exact silent word asks
  | keep asks _ ih =>
    rw [List.map_cons, List.mem_cons, ih]
    simp only [List.mem_cons, or_and_right, exists_or]
    refine or_congr_left ⟨?_, ?_⟩
    · rintro rfl
      exact ⟨_, rfl, _, asks⟩
    · rintro ⟨_, same, -⟩
      exact Datum.text.inj (Prod.mk.inj same).1

/-- In a section whose keys are texts, each of them once, no rule replaces another. -/
theorem kept_ofPairs (named : Json.HasNames entries) (known : ∀ entry ∈ entries, ∀ word,
    AsksFor entry.2 word → ∃ action : Action, word = action.text) :
    Kept entries (OrderedMap.ofPairs (listedRules entries)) := by
  have kept := kept_listedRules named.exists_text known
  rw [OrderedMap.ofPairs_of_nodup (kept.keys_nodup named)]
  exact kept

theorem kept_of_readRules (named : Json.HasNames entries) (read : readRules entries [] = .ok rules) :
    Kept entries rules := by
  rw [readRules_eq read, ← OrderedMap.ofPairs_eq_putAll]
  exact kept_ofPairs named (readRules_succeeds_iff.mp ⟨_, read⟩)

end Rules

/-! ### Building a configuration -/

theorem lookup_entriesOf (found : Option Datum) (key : Text) :
    Datum.lookup (entriesOf found) key = found.bind (·.get? key) := by
  cases found with
  | none => rfl
  | some value => cases value <;> rfl

theorem usable_iff {re : Expressions} {rules : List (Text × Action)} :
    (∀ pattern ∈ rules.map (·.1), Usable re pattern) ↔ ¬(rules.any (·.1.isEmpty)) = true ∧
      ∀ pattern ∈ rules.map (·.1), ∀ d : Delimited, d.Spells pattern →
        ∃ found, re.read d.body d.switches = .ok found := by
  have nonempty : ¬(rules.any (·.1.isEmpty)) = true ↔
      ∀ pattern ∈ rules.map (·.1), pattern ≠ [] := by
    rw [Bool.not_eq_true, List.any_eq_false, List.forall_mem_map]
    exact forall₂_congr fun rule _ => by simp
  rw [nonempty]
  exact ⟨fun usable => ⟨fun pattern member => (usable pattern member).nonempty,
      fun pattern member => (usable pattern member).readable⟩,
    fun both pattern member => ⟨both.1 pattern member, both.2 pattern member⟩⟩

section Json

variable {re : Expressions} {document : Datum} {found : Option Datum}

theorem hasNames_entriesOf (json : ∀ value, found = some value → Json.IsJson value) :
    Json.HasNames (entriesOf found) := by
  have none : Json.HasNames [] := ⟨[], List.nodup_nil, rfl⟩
  cases found with
  | none => exact none
  | some value =>
    cases json value rfl with
    | map names _ => exact names
    | _ => exact none

theorem ruleNames (json : Json.IsJson document) :
    Json.HasNames (entriesOf (document.get? "rules")) :=
  hasNames_entriesOf fun _ found => json.get? found

theorem priorityNames (json : Json.IsJson document) :
    Json.HasNames (entriesOf (fixerSetting? document "priorities")) := by
  refine hasNames_entriesOf fun value set => ?_
  obtain ⟨fixers, found, set⟩ := Option.bind_eq_some_iff.mp set
  exact (json.get? found).get? set

theorem Valid.known (valid : Valid re document) (json : Json.IsJson document) :
    ∀ entry ∈ entriesOf (document.get? "rules"), ∀ word, AsksFor entry.2 word →
      ∃ action : Action, word = action.text := by
  intro entry member word asks
  obtain ⟨name, text⟩ := (ruleNames json).exists_text entry member
  exact valid.actions name word ⟨entry.2, text ▸ member, asks⟩

theorem integers_iff {entries : List (Datum × Datum)} (named : Json.HasNames entries) :
    (∀ entry ∈ OrderedMap.ofPairs (entries.map fun entry => (keyText entry.1, entry.2)),
      ∃ n, entry.2 = .int n) ↔ ∀ entry ∈ entries, ∃ n, entry.2 = .int n := by
  obtain ⟨names, distinct, same⟩ := named
  have keys : (entries.map fun entry => (keyText entry.1, entry.2)).map (·.1) = names := by
    calc (entries.map fun entry => (keyText entry.1, entry.2)).map (·.1)
        = (entries.map (·.1)).map keyText := by simp only [List.map_map, Function.comp_def]
      _ = names := by
        rw [same, List.map_map]
        exact List.map_id _
  rw [OrderedMap.ofPairs_of_nodup (keys ▸ distinct), List.forall_mem_map]

/-- A configuration is built from the valid documents. -/
theorem ofDatum_succeeds_iff (json : Json.IsJson document) :
    (∃ c, ofDatum re document = .ok c) ↔ Valid re document := by
  have ruleNames := ruleNames json
  have priorityNames := priorityNames json
  cases document with
  | map entries =>
    simp only [ofDatum, succeeds_bind_iff, Except.ok.injEq, exists_eq_left', succeeds_unless_iff,
      succeeds_pure_iff, mapping_eq_ok_iff, and_assoc, exists_and_left, exists_and_right,
      exists_eq_left, texts_succeeds_iff, lookup_entriesOf, and_true,
      readFallback_succeeds_iff, readPriorities_succeeds_iff, checkExpressions_succeeds_iff]
    constructor
    · rintro ⟨table, rules, read, fallback, fixers, priorities, enabled, disabled, customFixers,
        includePaths, excludePaths, nonempty, integers, readable⟩
      have kept := kept_of_readRules ruleNames read
      have usable := usable_iff.mpr ⟨nonempty, readable⟩
      have known := readRules_succeeds_iff.mp ⟨rules, read⟩
      refine ⟨⟨entries, rfl⟩, table, ?_, ?_, fallback, fixers, priorities,
        (integers_iff priorityNames).mp integers, enabled, disabled, customFixers, includePaths,
        excludePaths⟩
      · rintro pattern word ⟨value, member, asks⟩
        exact known _ member word asks
      · rintro pattern word ⟨value, member, asks⟩
        exact usable pattern (kept.mem_keys_iff.mpr ⟨value, member, word, asks⟩)
    · intro valid
      obtain ⟨rules, read⟩ : ∃ rules, readRules _ [] = .ok rules :=
        readRules_succeeds_iff.mpr (valid.known json)
      have kept := kept_of_readRules ruleNames read
      have usable : ∀ pattern ∈ rules.map (·.1), Usable re pattern := by
        intro pattern member
        obtain ⟨value, member, word, asks⟩ := kept.mem_keys_iff.mp member
        exact valid.patterns pattern word ⟨value, member, asks⟩
      obtain ⟨nonempty, readable⟩ := usable_iff.mp usable
      refine ⟨valid.rules, rules, read, valid.fallback, valid.fixers, valid.priorities,
        valid.enabled, valid.disabled, valid.customFixers, valid.includePaths, valid.excludePaths,
        nonempty, (integers_iff priorityNames).mpr valid.integers, readable⟩
  | _ =>
    constructor
    · rintro ⟨_, ⟨⟩⟩
    · intro valid
      obtain ⟨_, ⟨⟩⟩ := valid.root

/-! ### Faults -/

def Reported (fault : ConfigurationFault) : Prop :=
  ∀ path, ConfigurationError.isReported ⟨path, .invalid fault⟩ = true

/-- An expression of a rule that is not read is refused, and nothing else is raised. -/
def OnlyRefuses (re : Expressions) (document : Datum) : Prop :=
  ∀ pattern word, HasRule document pattern word → ∀ d : Delimited, d.Spells pattern →
    ∀ thrown, re.read d.body d.switches ≠ .error (.raised thrown)

section Steps

variable {entries : List (Datum × Datum)} {key label : Text}

theorem mapping_failsAs : FailsAs Reported (mapping entries key label) := by
  unfold mapping
  split
  · exact failsAs_ok _ _
  · exact failsAs_ok _ _
  · exact failsAs_error fun _ => rfl

theorem texts_failsAs : FailsAs Reported (texts entries key label) := by
  unfold texts
  split
  · exact failsAs_ok _ _
  · split
    · exact failsAs_ok _ _
    · exact failsAs_error fun _ => rfl
  · exact failsAs_error fun _ => rfl

theorem readRules_failsAs {rules : OrderedMap Text Action} :
    FailsAs Reported (readRules entries rules) := by
  fun_induction readRules entries rules with
  | case1 rules => exact failsAs_ok _ _
  | case2 _ _ _ _ _ ih => exact ih
  | case3 => exact failsAs_error fun _ => rfl
  | case4 _ _ _ _ _ _ _ _ ih => exact ih

theorem readFallback_failsAs : FailsAs Reported (readFallback entries) := by
  unfold readFallback
  split
  · exact failsAs_ok _ _
  · split
    · exact failsAs_error fun _ => rfl
    · exact failsAs_ok _ _

theorem readPriorities_failsAs {priorities : OrderedMap Text Datum} :
    FailsAs Reported (readPriorities priorities) := by
  unfold readPriorities
  induction priorities with
  | nil => exact failsAs_ok _ _
  | cons entry rest ih =>
    rw [List.mapM_cons]
    refine FailsAs.bind ?_ fun first _ => ih.bind fun others _ => failsAs_ok _ _
    obtain ⟨name, value⟩ := entry
    cases value with
    | int n => exact failsAs_ok _ _
    | _ => exact failsAs_error fun _ => rfl

theorem checkExpressions_failsAs {patterns : List Text} (refuses : ∀ pattern ∈ patterns,
    ∀ d : Delimited, d.Spells pattern → ∀ thrown,
      re.read d.body d.switches ≠ .error (.raised thrown)) :
    FailsAs Reported (checkExpressions re patterns) := by
  fun_induction checkExpressions re patterns with
  | case1 => exact failsAs_ok _ _
  | case2 pattern rest none ih => exact ih (List.forall_mem_cons.mp refuses).2
  | case3 pattern rest d same found compiled ih =>
    exact ih (List.forall_mem_cons.mp refuses).2
  | case4 pattern rest d same fault failed =>
    have spelled := Delimited.ofText?_eq_some_iff.mp same
    refine failsAs_error fun path => ?_
    cases fault with
    | refused message => rfl
    | raised thrown => exact absurd failed (refuses pattern List.mem_cons_self d spelled thrown)

end Steps

theorem ofDatum_failsAs (json : Json.IsJson document) (refuses : OnlyRefuses re document) :
    FailsAs Reported (ofDatum re document) := by
  have named := ruleNames json
  cases document with
  | map entries =>
    unfold ofDatum
    refine FailsAs.bind (failsAs_ok _ entries) fun _ same => ?_
    obtain rfl := Except.ok.inj same
    refine mapping_failsAs.bind fun ruleEntries inside => ?_
    refine readRules_failsAs.bind fun rules read => ?_
    refine readFallback_failsAs.bind fun fallback _ => ?_
    refine mapping_failsAs.bind fun fixers _ => ?_
    refine mapping_failsAs.bind fun priorityEntries _ => ?_
    iterate 5 refine texts_failsAs.bind fun _ _ => ?_
    split
    · exact FailsAs.bind (failsAs_error fun _ => rfl) fun _ passed => nomatch passed
    · refine readPriorities_failsAs.bind fun priorities _ => ?_
      refine (checkExpressions_failsAs ?_).bind fun _ _ => failsAs_ok _ _
      intro pattern member
      obtain rfl := (mapping_eq_ok_iff.mp inside).2
      obtain ⟨value, member, word, asks⟩ := (kept_of_readRules named read).mem_keys_iff.mp member
      exact refuses pattern word ⟨value, member, asks⟩
  | _ => exact failsAs_error fun _ => rfl

end Json

end Configuration

open DocRepair.Configuration in
/-- Whatever expressions mean, a configuration is built exactly from the valid documents, and its
rules are those that ask for an action, in order. Every other document is reported, unless reading
an expression raises something else than a refusal. -/
theorem valid_documents (re : Expressions) {document : Datum} (json : Json.IsJson document) :
    ((∃ c, ofDatum re document = .ok c) ↔ Valid re document) ∧
      (∀ c, ofDatum re document = .ok c →
        Kept (entriesOf (document.get? "rules")) c.rules.entries) ∧
      (¬Valid re document → OnlyRefuses re document →
        ∃ fault, ofDatum re document = .error fault ∧
          ∀ path, ConfigurationError.isReported ⟨path, .invalid fault⟩ = true) := by
  have accepted : (∃ c, ofDatum re document = .ok c) ↔ Valid re document :=
    ofDatum_succeeds_iff json
  refine ⟨accepted, fun c built => ?_, fun invalid refuses => ?_⟩
  · rw [(ofDatum_rules built).1]
    exact kept_ofPairs (ruleNames json) ((accepted.mp ⟨c, built⟩).known json)
  · cases built : ofDatum re document with
    | ok c => exact absurd (accepted.mp ⟨c, built⟩) invalid
    | error fault => exact ⟨fault, rfl, ofDatum_failsAs json refuses fault built⟩

open DocRepair.Configuration in
/-- A document whose second entry is no rule, and one with an expression that is not closed. -/
theorem valid_documents_sample :
    let accepted : Datum := .map [(.text "rules", .map [(.text "Foo*", .text "ignore"),
      (.text "later", .int 5), (.text "/ba[rz]/i", .map [(.text "action", .text "report")])])]
    let refused : Datum := .map [(.text "rules", .map [(.text "/ba[rz/", .text "fix")])]
    Json.read ("\x7b\"rules\": \x7b\"Foo*\": \"ignore\", \"later\": 5, " ++
      "\"/ba[rz]/i\": \x7b\"action\": \"report\"\x7d\x7d\x7d") = .ok accepted ∧
    Json.read "\x7b\"rules\": \x7b\"/ba[rz/\": \"fix\"\x7d\x7d" = .ok refused ∧
    Valid .standard accepted ∧
    Kept (entriesOf (accepted.get? "rules")) [("Foo*", .ignore), ("/ba[rz]/i", .report)] ∧
    ¬Valid .standard refused ∧
    ∃ fault, ofDatum .standard refused = .error fault ∧
      ∀ path, ConfigurationError.isReported ⟨path, .invalid fault⟩ = true := by
  intro accepted refused
  have readAccepted : Json.read ("\x7b\"rules\": \x7b\"Foo*\": \"ignore\", \"later\": 5, " ++
      "\"/ba[rz]/i\": \x7b\"action\": \"report\"\x7d\x7d\x7d") = .ok accepted := by
    rfl
  have readRefused : Json.read "\x7b\"rules\": \x7b\"/ba[rz/\": \"fix\"\x7d\x7d" =
      .ok refused := by
    rfl
  have built : ofDatum .standard accepted =
      .ok { rules := ⟨[("Foo*", .ignore), ("/ba[rz]/i", .report)], .fix⟩ } := by
    decide +kernel
  obtain ⟨valid, kept, -⟩ := valid_documents .standard (Json.isJson_read readAccepted)
  obtain ⟨refusal, -, reported⟩ := valid_documents .standard (Json.isJson_read readRefused)
  have invalid : ¬Valid .standard refused := by
    intro ok
    obtain ⟨c, built⟩ := refusal.mpr ok
    have failed : ∀ c, ofDatum .standard refused ≠ .ok c := by
      have stopped : (ofDatum .standard refused).isOk = false := by decide +kernel
      intro c built
      rw [built] at stopped
      cases stopped
    exact failed c built
  have refuses : OnlyRefuses .standard refused := by
    rintro pattern word ⟨value, member, asks⟩ d spelled thrown
    obtain ⟨same, -⟩ := Prod.mk.inj (List.mem_singleton.mp member)
    obtain rfl := Datum.text.inj same
    have known : Delimited.ofText? "/ba[rz/" = some ⟨"ba[rz", []⟩ := by decide
    obtain rfl := Option.some.inj (known.symm.trans (Delimited.ofText?_eq_some_iff.mpr spelled))
    have answer : Expressions.standard.read "ba[rz" {} =
        .error (.refused "unterminated character set at position 2") := by
      rfl
    intro raised
    cases answer.symm.trans raised
  exact ⟨readAccepted, readRefused, valid.mp ⟨_, built⟩, kept _ built, invalid,
    reported invalid refuses⟩

end DocRepair
