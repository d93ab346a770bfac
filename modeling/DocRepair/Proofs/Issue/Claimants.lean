import DocRepair.Proofs.Batch.Steps
import DocRepair.Proofs.Issue.Names
import DocRepair.Proofs.Text.LineEndings

/-!
The fixers in turn.

Each fixer looks for its words anywhere in a message, inside of the names too. The outline of a
message shows which fixers cannot claim it, whatever the names are; the first of the others that
does gets it.
-/

namespace DocRepair

open Outline

/-- A message goes to the fixer of a name, whatever else the diagnostic says. -/
def Registry.Sends (r : Registry) (message name : Text) : Prop :=
  ∀ issue : Issue, issue.message = message → (r.claimant? issue).map (·.name) = some name

/-- A fixer by its name, with the messages that it claims, and a check for the outlines of which it
may claim one. -/
structure Claimant where
  name : Text
  claims : Text → Bool
  may : Outline → Bool
  sound : ∀ {o message}, Describes nameGap o message → claims message = true → may o = true

namespace Claimant

/-- A fixer that claims the messages in which a pattern occurs. -/
def ofPattern (name : Text) (p : Pattern) : Claimant where
  name
  claims := p.occursIn
  may := p.mayOccur nameGap.meets
  sound := by
    intro o message described occurs
    by_contra excluded
    rw [Bool.not_eq_true] at excluded
    rw [Pattern.occursIn_eq_false described excluded] at occurs
    cases occurs

theorem claims_ofPattern {p : Pattern} {message : Text} (name : Text)
    (occurs : p.occursIn message = true) : (ofPattern name p).claims message = true :=
  occurs

/-- A fixer that claims the messages in which one of several patterns occurs. -/
def ofPatterns (name : Text) (patterns : List Pattern) : Claimant where
  name
  claims message := patterns.any (·.occursIn message)
  may o := patterns.any (·.mayOccur nameGap.meets o)
  sound := by
    intro o message described occurs
    obtain ⟨p, member, found⟩ := List.any_eq_true.mp occurs
    exact List.any_eq_true.mpr ⟨p, member, (ofPattern name p).sound described found⟩

theorem claims_ofPatterns {p : Pattern} {patterns : List Pattern} {message : Text} (name : Text)
    (member : p ∈ patterns) (occurs : p.occursIn message = true) :
    (ofPatterns name patterns).claims message = true :=
  List.any_eq_true.mpr ⟨p, member, occurs⟩

/-- The fixer of properties leaves out the pivot of a relation. -/
def property : Claimant where
  name := "MissingPropertyDocblockFixer"
  claims := Fixer.claimsProperty
  may := Message.undefinedProperty.mayOccur nameGap.meets
  sound := by
    intro o message described claimed
    rw [Fixer.claimsProperty, Bool.and_eq_true] at claimed
    exact (ofPattern [] Message.undefinedProperty).sound described claimed.1

theorem claims_property (message : Text) : property.claims message =
    (Message.isUndefinedProperty message && Message.propertyName? message != some Fixer.pivot) :=
  rfl

end Claimant

theorem Outline.mayHold_of_holds {k : GapClass} {o : Outline} {t part : Text}
    (described : Describes k o t) (held : t.holds part = true) :
    o.mayHold k.meets (exactSets part) = true := by
  obtain ⟨before, rest, split⟩ := (Text.holds_iff_isInfix t part).mp held
  rw [← split, List.append_assoc] at described
  exact mayHold_of_fits described (fits_exactSets part)

namespace Claimant

/-- The fixer of properties that are not to be written also looks for words in lower case. -/
def readonly : Claimant where
  name := "ReadonlyPropertyFixer"
  claims := Fixer.claimsReadonly
  may o := Fixer.readonlyProperty.mayOccur nameGap.meets o ||
    o.lower.mayHold lowerGap.meets (exactSets "assigned outside of")
  sound := by
    intro o message described claimed
    rw [Fixer.claimsReadonly, Bool.or_eq_true, Bool.and_eq_true] at claimed
    rw [Bool.or_eq_true]
    rcases claimed with occurs | ⟨held, _⟩
    · exact .inl ((ofPattern [] Fixer.readonlyProperty).sound described occurs)
    · exact .inr (mayHold_of_holds (described.lowered lowerGap_of_lowerForms []) held)

theorem claims_readonly (message : Text) : readonly.claims message =
    (Fixer.readonlyProperty.occursIn message ||
      (message.lower.holds "assigned outside of" && message.lower.holds "property")) :=
  rfl

/-- The fixer of mixins claims both kinds of members that are not defined. -/
def mixin : Claimant where
  name := "MixinFixer"
  claims message := Message.isUndefinedMethod message || Message.isUndefinedProperty message
  may o := Message.undefinedMethod.mayOccur nameGap.meets o ||
    Message.undefinedProperty.mayOccur nameGap.meets o
  sound := by
    intro o message described claimed
    rw [Bool.or_eq_true] at claimed ⊢
    exact claimed.imp ((ofPattern [] Message.undefinedMethod).sound described)
      ((ofPattern [] Message.undefinedProperty).sound described)

theorem claims_mixin (message : Text) : mixin.claims message =
    (Message.isUndefinedMethod message || Message.isUndefinedProperty message) :=
  rfl

/-- The fixers in the order in which they are asked. -/
def all : List Claimant :=
  [ofPattern "MissingReturnDocblockFixer" Message.missingReturn,
    ofPattern "MissingParamDocblockFixer" Message.missingParameter,
    property,
    readonly,
    ofPatterns "UndefinedVariableFixer" Fixer.undefinedVariable,
    ofPattern "UndefinedMethodFixer" Message.undefinedMethod,
    ofPatterns "MissingThrowsDocblockFixer" Fixer.undocumentedThrow,
    ofPatterns "CallableTypeFixer" Fixer.callableMessages,
    mixin,
    ofPatterns "ImpureFunctionFixer" [Fixer.impureWords, Fixer.pureWord],
    ofPatterns "SealedClassFixer" [Fixer.sealedClass.mention],
    ofPatterns "RequireExtendsFixer" [Fixer.requireExtends.mention],
    ofPatterns "RequireImplementsFixer" [Fixer.requireImplements.mention],
    ofPatterns "IterableValueTypeFixer" [Fixer.valueTypeMessage]]

theorem all_claims (analyze : Analyzer) (issue : Issue) :
    (Fixer.builtins analyze).map (fun fixer => (fixer.name, fixer.claims issue)) =
      all.map fun claimant => (claimant.name, claimant.claims issue.message) :=
  rfl

theorem standard_claimant?_name (analyze : Analyzer) (issue : Issue) :
    ((Registry.standard analyze).claimant? issue).map (·.name) =
      (all.find? fun other => other.claims issue.message).map (·.name) := by
  have same := congrArg (fun table => (table.find? (·.2)).map (·.1)) (all_claims analyze issue)
  rw [Registry.standard_claimant?]
  simpa only [List.find?_map, Option.map_map, Function.comp_def] using same

/-- The first fixer that claims a message gets it. -/
theorem sends_first (analyze : Analyzer) {message : Text} (i : Nat) {claimant : Claimant}
    (place : all[i]? = some claimant)
    (others : ∀ other ∈ all.take i, other.claims message = false)
    (claimed : claimant.claims message = true) :
    (Registry.standard analyze).Sends message claimant.name := by
  rintro issue rfl
  have first : all.find? (fun other => other.claims issue.message) = some claimant := by
    obtain ⟨within, here⟩ := List.getElem?_eq_some_iff.mp place
    rw [List.find?_eq_some_iff_append]
    refine ⟨claimed, all.take i, all.drop (i + 1), ?_, ?_⟩
    · rw [← here, List.getElem_cons_drop, List.take_append_drop]
    · intro other member
      rw [others other member]
      rfl
  rw [standard_claimant?_name, first]
  rfl

theorem claims_eq_false {other : Claimant} {o : Outline} {message : Text}
    (described : Describes nameGap o message) (excluded : other.may o = false) :
    other.claims message = false := by
  by_contra claims
  rw [Bool.not_eq_false] at claims
  rw [other.sound described claims] at excluded
  cases excluded

/-- A fixer gets the messages that it claims, if the outline excludes those before it. -/
theorem sends (analyze : Analyzer) {o : Outline} {message : Text} (i : Nat) {claimant : Claimant}
    (place : all[i]? = some claimant) (described : Describes nameGap o message)
    (others : (all.take i).all (fun other => !other.may o) = true)
    (claimed : claimant.claims message = true) :
    (Registry.standard analyze).Sends message claimant.name := by
  refine sends_first analyze i place ?_ claimed
  intro other member
  exact claims_eq_false described (by simpa using List.all_eq_true.mp others other member)

/-- A fixer gets the messages that it claims, if of those before it the outline excludes all but
some, and these do not claim them. -/
theorem sends_unless (analyze : Analyzer) {o : Outline} {message : Text} (i : Nat)
    {claimant : Claimant} (place : all[i]? = some claimant)
    (described : Describes nameGap o message) (exceptions : List Nat)
    (others : ∀ j < i, j ∉ exceptions → all[j]?.any (fun other => other.may o) = false)
    (refused : ∀ j ∈ exceptions, all[j]?.any (fun other => other.claims message) = false)
    (claimed : claimant.claims message = true) :
    (Registry.standard analyze).Sends message claimant.name := by
  refine sends_first analyze i place ?_ claimed
  intro other member
  obtain ⟨j, early, rfl⟩ := List.mem_take_iff_getElem.mp member
  obtain ⟨before, within⟩ := Nat.lt_min.mp early
  by_cases excepted : j ∈ exceptions
  · simpa [List.getElem?_eq_getElem within] using refused j excepted
  · have excluded := others j before excepted
    exact claims_eq_false described (by simpa [List.getElem?_eq_getElem within] using excluded)

end Claimant

end DocRepair
