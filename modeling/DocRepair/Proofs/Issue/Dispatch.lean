import DocRepair.Php.Source
import DocRepair.Proofs.Issue.Claimants

/-!
Which fixer a message goes to, and which names that fixer reads in it.

The messages are those of the analyser, with any names in them. For each one the outline excludes
the fixers that are asked before its own, and the words around a name show where it stands.
-/

namespace DocRepair

open Outline

namespace Text

theorem ofString_append (s t : String) : ofString s ++ ofString t = ofString (s ++ t) := by
  simp [ofString]

theorem ofString_append_append (s t : String) (rest : Text) :
    ofString s ++ (ofString t ++ rest) = ofString (s ++ t) ++ rest := by
  rw [← List.append_assoc, ofString_append]

end Text

namespace Outline

variable {o : Outline} {t named : Text}

theorem Describes.words (words : Text) (rest : Describes nameGap o t) :
    Describes nameGap (fixed words ++ o) (words ++ t) :=
  (describes_fixed nameGap words).append rest

theorem Describes.name (isName : IsName named) (rest : Describes nameGap o t) :
    Describes nameGap (.gap :: o) (named ++ t) :=
  .gap isName.gap rest

theorem Describes.className (isName : IsClassName named) (rest : Describes nameGap o t) :
    Describes nameGap (.gap :: o) (named ++ t) :=
  .gap isName.gap rest

end Outline

namespace Message

open Pattern Cursor Text

variable {analyze : Analyzer} {owner thrown method function parameter property name : Text}

theorem firstName?_of_find? {p : Pattern} {others : List Pattern} {message : Text}
    (found : p.find? 1 message = some name) : firstName? (p :: others) message = some name := by
  rw [firstName?, List.findSome?_cons, found]

theorem firstName?_cons {p : Pattern} {others : List Pattern} {message : Text}
    (absent : p.occursIn message = false) :
    firstName? (p :: others) message = firstName? others message := by
  rw [occursIn, Option.isSome_eq_false_iff, Option.isNone_iff_eq_none] at absent
  rw [firstName?, List.findSome?_cons, find?, absent]
  rfl

theorem occursIn_article {words t : Text} (others rest : Text)
    (same : List.Forall₂ (fun a b => CodePoint.sameLetter a b = true) words t) :
    (all [anyCase words, article, anyCase others]).occursIn (t ++ ("an " ++ (others ++ rest))) =
      true :=
  occursIn_of_reaches_start <| Matcher.Leads.reaches <|
  leads_all_cons (leads_anyCase same) <|
  leads_all_cons (leads_optional (leads_anyCase_self _)) <|
  leads_all_cons (leads_anyCase_self _) (leads_all_nil _)

/-! ### Signatures without types -/

/-- A method without a result type. -/
def noReturnType (owner method : Text) : Text :=
  "Method " ++ owner ++ "::" ++ method ++ "() has no return type specified."

theorem noReturnType_sends (ownerName : IsClassName owner) (methodName : IsName method) :
    (Registry.standard analyze).Sends (noReturnType owner method) "MissingReturnDocblockFixer" := by
  have described := Describes.words "Method " (.className ownerName (.words "::" (.name methodName
    (describes_fixed nameGap "() has no return type specified."))))
  have occurs : missingReturn.occursIn (("Method " ++ (owner ++ ("::" ++ (method ++ "() ")))) ++
      ("has no return type" ++ " specified.")) = true :=
    occursIn_of_reaches (leads_alt_left (leads_anyCase_self _)).reaches
  rw [noReturnType]
  simp only [List.append_assoc, ofString_append, String.reduceAppend] at occurs ⊢
  exact Claimant.sends analyze 0 rfl described rfl (Claimant.claims_ofPattern _ occurs)

/-- A parameter without a type. -/
def untypedParameter (owner method parameter : Text) : Text :=
  "Method " ++ owner ++ "::" ++ method ++ "() has parameter $" ++ parameter ++
    " with no type specified."

theorem untypedParameter_sends (ownerName : IsClassName owner) (methodName : IsName method)
    (isName : IsName parameter) :
    (Registry.standard analyze).Sends (untypedParameter owner method parameter)
      "MissingParamDocblockFixer" := by
  have described := Describes.words "Method " (.className ownerName (.words "::" (.name methodName
    (.words "() has parameter $" (.name isName
      (describes_fixed nameGap " with no type specified."))))))
  have occurs : missingParameter.occursIn (("Method " ++ (owner ++ ("::" ++ (method ++ "() ")))) ++
      ("has parameter $" ++ (parameter ++ (" with no type specified" ++ ".")))) = true :=
    occursIn_of_reaches <| reaches_alt_right <| Matcher.Leads.reaches <|
    leads_all_cons (leads_anyCase_self _) <|
    leads_all_cons (leads_word isName (stops_before (by decide) _)) <|
    leads_all_cons (leads_anyCase_self _) (leads_all_nil _)
  rw [untypedParameter]
  simp only [List.append_assoc, ofString_append, ofString_append_append, String.reduceAppend]
    at occurs ⊢
  exact Claimant.sends analyze 1 rfl described (by decide +kernel)
    (Claimant.claims_ofPattern _ occurs)

theorem parameterName?_untypedParameter (ownerName : IsClassName owner)
    (methodName : IsName method) (isName : IsName parameter) :
    parameterName? (untypedParameter owner method parameter) = some parameter := by
  -- A class or a method may be called `parameter`, but white space follows neither.
  have front := Describes.words "Method " (.className ownerName (.words "::" (.name methodName
    (describes_fixed nameGap "() has "))))
  have back := Describes.words "parameter" (.words " " (.words "$" (.name isName
    (describes_fixed nameGap " with no type specified."))))
  have unnumbered := occursIn_eq_false (p := numberedParameter) (front.append back)
    (by decide +kernel)
  have named := find?_of_captures (p := namedParameter) front back (by decide) ⟨_,
    leads_all_cons (leads_anyCase_self _) <|
    leads_all_cons (leads_space (stops_before (by decide) _)) <|
    leads_all_cons (leads_exactly "$") <|
    leads_all_cons (leads_group 1 (leads_word isName (by decide))) (leads_all_nil _),
    group?_captured ..⟩
  rw [untypedParameter, parameterName?]
  simp only [List.append_assoc, ofString_append_append, String.reduceAppend] at unnumbered named ⊢
  rw [firstName?_cons unnumbered, firstName?_of_find? named]

/-! ### Properties -/

def unknownProperty (owner property : Text) : Text :=
  "Access to an undefined property " ++ owner ++ "::$" ++ property ++ "."

/-- An assignment to a property that is not to be written. -/
def readonlyAssigned (owner property : Text) : Text :=
  "Readonly property " ++ owner ++ "::$" ++ property ++
    " is assigned outside of its declaring class."

theorem namedProperty_captures {front rest : Text} (ownerName : IsClassName owner)
    (isName : IsName property) (stop : ∀ x ∈ rest.head?, wordSet.holds x = false) :
    namedProperty.Captures 1
      (between front ("property" ++ (" " ++ (owner ++ ("::" ++ ("$" ++ (property ++ rest)))))) [])
      property :=
  ⟨_, leads_all_cons (leads_anyCase_self _) <|
    leads_all_cons (leads_space (ownerName.not_blank _)) <|
    leads_all_cons (leads_ownerClass ownerName) <|
    leads_all_cons (leads_exactly "$") <|
    leads_all_cons (leads_group 1 (leads_word isName stop)) (leads_all_nil _),
    group?_captured ..⟩

theorem propertyName?_unknownProperty (ownerName : IsClassName owner) (isName : IsName property) :
    propertyName? (unknownProperty owner property) = some property := by
  have named := find?_of_captures (describes_fixed nameGap "Access to an undefined ")
    (.words _ (.words _ (.className ownerName (.words _ (.words _ (.name isName
      (describes_fixed nameGap ".")))))))
    (by decide) (namedProperty_captures ownerName isName (by decide))
  rw [unknownProperty, propertyName?]
  simp only [List.append_assoc, ofString_append_append, String.reduceAppend] at named ⊢
  rw [firstName?_of_find? named]

theorem unknownProperty_sends (ownerName : IsClassName owner) (isName : IsName property)
    (other : property ≠ Fixer.pivot) :
    (Registry.standard analyze).Sends (unknownProperty owner property)
      "MissingPropertyDocblockFixer" := by
  have described := Describes.words "Access to an undefined property " (.className ownerName
    (.words "::$" (.name isName (describes_fixed nameGap "."))))
  have occurs : undefinedProperty.occursIn ("Access to " ++ ("an " ++ ("undefined property" ++
      (" " ++ (owner ++ ("::$" ++ (property ++ "."))))))) = true :=
    occursIn_article _ _ (by decide)
  have named := propertyName?_unknownProperty ownerName isName
  rw [unknownProperty] at named ⊢
  simp only [List.append_assoc, ofString_append_append, String.reduceAppend] at occurs named ⊢
  refine Claimant.sends analyze 2 rfl described (by decide +kernel) ?_
  rw [Claimant.claims_property, isUndefinedProperty, occurs, named]
  simpa using other

theorem propertyName?_readonlyAssigned (ownerName : IsClassName owner) (isName : IsName property) :
    propertyName? (readonlyAssigned owner property) = some property := by
  have named := find?_of_captures (describes_fixed nameGap "Readonly ")
    (.words _ (.words _ (.className ownerName (.words _ (.words _ (.name isName
      (describes_fixed nameGap " is assigned outside of its declaring class.")))))))
    (by decide) (namedProperty_captures ownerName isName (by decide))
  rw [readonlyAssigned, propertyName?]
  simp only [List.append_assoc, ofString_append_append, String.reduceAppend] at named ⊢
  rw [firstName?_of_find? named]

theorem readonlyAssigned_sends (ownerName : IsClassName owner) (isName : IsName property) :
    (Registry.standard analyze).Sends (readonlyAssigned owner property)
      "ReadonlyPropertyFixer" := by
  have described := Describes.words "Readonly property " (.className ownerName (.words "::$"
    (.name isName (describes_fixed nameGap " is assigned outside of its declaring class."))))
  have occurs : Fixer.readonlyProperty.occursIn ("Read" ++ ("only property" ++ (" " ++
      (owner ++ ("::$" ++ (property ++ " is assigned outside of its declaring class.")))))) =
      true :=
    occursIn_of_reaches_start <|
    reaches_all_cons (leads_anyCase (by decide)).reaches <|
    reaches_all_cons (reaches_optional _ _) <|
    reaches_all_cons (leads_anyCase_self _).reaches (leads_all_nil _).reaches
  rw [readonlyAssigned]
  simp only [List.append_assoc, ofString_append_append, String.reduceAppend] at occurs ⊢
  refine Claimant.sends analyze 3 rfl described (by decide +kernel) ?_
  rw [Claimant.claims_readonly, occurs, Bool.true_or]

/-! ### Methods and variables -/

def unknownMethod (owner method : Text) : Text :=
  "Call to an undefined method " ++ owner ++ "::" ++ method ++ "()."

theorem unknownMethod_sends (ownerName : IsClassName owner) (isName : IsName method) :
    (Registry.standard analyze).Sends (unknownMethod owner method) "UndefinedMethodFixer" := by
  have described := Describes.words "Call to an undefined method " (.className ownerName
    (.words "::" (.name isName (describes_fixed nameGap "()."))))
  have occurs : undefinedMethod.occursIn ("Call to " ++ ("an " ++ ("undefined method" ++
      (" " ++ (owner ++ ("::" ++ (method ++ "()."))))))) = true :=
    occursIn_article _ _ (by decide)
  rw [unknownMethod]
  simp only [List.append_assoc, ofString_append_append, String.reduceAppend] at occurs ⊢
  exact Claimant.sends analyze 5 rfl described (by decide +kernel)
    (Claimant.claims_ofPattern _ occurs)

theorem methodName?_unknownMethod (ownerName : IsClassName owner) (isName : IsName method) :
    methodName? (unknownMethod owner method) = some method := by
  have called : calledMethod.Captures 1 (between "Call to an undefined "
      ("method" ++ (" " ++ (owner ++ ("::" ++ (method ++ ("(" ++ ").")))))) []) method :=
    ⟨_, leads_all_cons (leads_anyCase_self _) <|
      leads_all_cons (leads_space (ownerName.not_blank _)) <|
      leads_all_cons (leads_ownerClass ownerName) <|
      leads_all_cons (leads_group 1 (leads_word isName (stops_before (by decide) _))) <|
      leads_all_cons (leads_many_nil (stops_before (by decide) _)) <|
      leads_all_cons (leads_exactly "(") (leads_all_nil _),
      group?_captured ..⟩
  have named := find?_of_captures (describes_fixed nameGap _)
    (.words _ (.words _ (.className ownerName (.words _ (.name isName (.words _
      (describes_fixed nameGap ")."))))))) (by decide) called
  rw [unknownMethod, methodName?]
  simp only [List.append_assoc, ofString_append, ofString_append_append, String.reduceAppend]
    at named ⊢
  rw [firstName?_of_find? named]

def unboundVariable (name : Text) : Text := "Undefined variable: $" ++ name

theorem unboundVariable_sends (isName : IsName name) :
    (Registry.standard analyze).Sends (unboundVariable name) "UndefinedVariableFixer" := by
  have described := Describes.words "Undefined variable: $" (describes_gap isName.gap)
  have occurs : (anyCase "undefined variable").occursIn
      ("Undefined variable" ++ (": $" ++ name)) = true :=
    occursIn_of_reaches_start (leads_anyCase (by decide)).reaches
  rw [unboundVariable]
  simp only [ofString_append_append, String.reduceAppend] at occurs
  exact Claimant.sends analyze 4 rfl described (by decide +kernel)
    (Claimant.claims_ofPatterns _ (by simp [Fixer.undefinedVariable]) occurs)

theorem undefinedVariableName?_unboundVariable (isName : IsName name) :
    Fixer.undefinedVariableName? (unboundVariable name) = some name := by
  have back := Describes.words "variable:" (.words " " (.words "$" (.name isName .nil)))
  have named := find?_of_captures (n := 1)
    (p := all [anyCase "variable:", many (cls .blank), exactly "$", .group 1 word])
    (describes_fixed nameGap "Undefined ") back (by decide) ⟨_,
      leads_all_cons (leads_anyCase_self _) <|
      leads_all_cons (leads_many (by decide) (stops_before (by decide) _)) <|
      leads_all_cons (leads_exactly "$") <|
      leads_all_cons (leads_group 1 (leads_word isName (by simp))) (leads_all_nil _),
      group?_captured ..⟩
  rw [unboundVariable, Fixer.undefinedVariableName?]
  simp only [List.append_nil, ofString_append_append, String.reduceAppend] at named
  exact firstName?_of_find? named

/-! ### Exceptions and callables -/

def undocumentedException (function thrown : Text) : Text :=
  "Function " ++ function ++ "() throws checked exception " ++ thrown ++
    " but it's missing from the PHPDoc @throws tag."

theorem undocumentedException_sends (functionName : IsName function)
    (isName : IsClassName thrown) :
    (Registry.standard analyze).Sends (undocumentedException function thrown)
      "MissingThrowsDocblockFixer" := by
  have described := Describes.words "Function " (.name functionName
    (.words "() throws checked exception " (.className isName
      (describes_fixed nameGap " but it's missing from the PHPDoc @throws tag."))))
  have line : ∀ c ∈ (" " ++ (thrown ++ " ") : Text), lineSet.holds c = true := by
    have space : ∀ c ∈ (" " : Text), lineSet.holds c = true := by decide
    simp only [List.mem_append]
    rintro c (first | inside | last)
    · exact space c first
    · exact isName.on_line c inside
    · exact space c last
  have occurs : (all [anyCase "throws ", optional (anyCase "checked "), anyCase "exception",
      restOfLine, anyCase "but", restOfLine, anyCase "@throws"]).occursIn
      (("Function " ++ (function ++ "() ")) ++ ("throws " ++ ("checked " ++ ("exception" ++
        ((" " ++ (thrown ++ " ")) ++ ("but" ++ (" it's missing from the PHPDoc " ++
          ("@throws" ++ " tag.")))))))) = true :=
    occursIn_of_reaches <|
    reaches_all_cons (leads_anyCase_self _).reaches <|
    reaches_all_cons (leads_optional (leads_anyCase_self _)).reaches <|
    reaches_all_cons (leads_anyCase_self _).reaches <|
    reaches_all_cons (reaches_many line) <|
    reaches_all_cons (leads_anyCase_self _).reaches <|
    reaches_all_cons (reaches_many (by decide)) <|
    reaches_all_cons (leads_anyCase_self _).reaches (leads_all_nil _).reaches
  rw [undocumentedException]
  simp only [List.append_assoc, ofString_append, ofString_append_append, String.reduceAppend]
    at occurs ⊢
  exact Claimant.sends analyze 6 rfl described (by decide +kernel)
    (Claimant.claims_ofPatterns _ (by simp [Fixer.undocumentedThrow]) occurs)

theorem exceptionName?_undocumentedException (functionName : IsName function)
    (isName : IsClassName thrown) :
    exceptionName? (undocumentedException function thrown) = some thrown := by
  -- The last code point in front is kept apart, because the pattern looks back at it.
  have front := (Describes.words "Function " (.name functionName
    (describes_fixed nameGap "()"))).append (describes_fixed nameGap " ")
  have back := Describes.words "throws" (.words " " (.words "checked" (.words " "
    (.words "exception" (.words " " (.className isName
      (describes_fixed nameGap " but it's missing from the PHPDoc @throws tag.")))))))
  have named := find?_of_captures (p := thrownException) (n := 1) front back (by decide)
    ⟨_, leads_all_cons (leads_notBehind (by decide)) <|
      leads_all_cons (leads_anyCase_self _) <|
      leads_all_cons (leads_space (stops_before (by decide) _)) <|
      leads_all_cons (leads_optional (leads_all_cons (leads_anyCase_self _) <|
        leads_all_cons (leads_space (stops_before (by decide) _)) (leads_all_nil _))) <|
      leads_all_cons (leads_optional (leads_all_cons (leads_anyCase_self _) <|
        leads_all_cons (leads_space (isName.not_blank _)) (leads_all_nil _))) <|
      leads_all_cons (leads_group 1 (leads_className isName (by decide))) (leads_all_nil _),
      group?_captured ..⟩
  rw [undocumentedException, exceptionName?]
  simp only [List.append_assoc, ofString_append, ofString_append_append, String.reduceAppend]
    at named ⊢
  exact firstName?_of_find? named

def laterInvoked (n : Nat) (parameter owner method : Text) : Text :=
  "Parameter #" ++ Text.ofNat n ++ " $" ++ parameter ++ " of method " ++ owner ++ "::" ++
    method ++ "() expects callable, invoked later."

theorem leads_ordinal (n : Nat) {front rest : Text} {groups : List (Nat × Capture)}
    (stop : ∀ x ∈ rest.head?, digitSet.holds x = false) :
    ordinal.run.Leads (between front ("#" ++ (Text.ofNat n ++ rest)) groups)
      (between (front ++ "#" ++ Text.ofNat n) rest
        (captured 2 (front ++ "#") (Text.ofNat n) groups)) :=
  leads_all_cons (leads_exactly "#") <|
  leads_all_cons (leads_group 2 (leads_digits n stop)) (leads_all_nil _)

theorem laterInvoked_sends (n : Nat) (parameterName : IsName parameter)
    (ownerName : IsClassName owner) (methodName : IsName method) :
    (Registry.standard analyze).Sends (laterInvoked n parameter owner method)
      "CallableTypeFixer" := by
  have described := Describes.words "Parameter #" (.name (isName_ofNat n) (.words " $"
    (.name parameterName (.words " of method " (.className ownerName (.words "::"
      (.name methodName (describes_fixed nameGap "() expects callable, invoked later."))))))))
  have occurs : (all [anyCase "callable", restOfLine, anyCase "invoked"]).occursIn
      (("Parameter #" ++ (Text.ofNat n ++ (" $" ++ (parameter ++ (" of method " ++ (owner ++
        ("::" ++ (method ++ "() expects ")))))))) ++
          ("callable" ++ (", " ++ ("invoked" ++ " later.")))) = true :=
    occursIn_of_reaches <|
    reaches_all_cons (leads_anyCase_self _).reaches <|
    reaches_all_cons (reaches_many (by decide)) <|
    reaches_all_cons (leads_anyCase_self _).reaches (leads_all_nil _).reaches
  rw [laterInvoked]
  simp only [List.append_assoc, ofString_append, String.reduceAppend] at occurs ⊢
  exact Claimant.sends analyze 7 rfl described (by decide +kernel)
    (Claimant.claims_ofPatterns _ (by simp [Fixer.callableMessages]) occurs)

theorem parameterName?_laterInvoked (n : Nat) (isName : IsName parameter) (owner method : Text) :
    parameterName? (laterInvoked n parameter owner method) = some parameter := by
  have numbered : numberedParameter.Captures 1 (between [] ("Parameter" ++ (" " ++ ("#" ++
      (Text.ofNat n ++ (" " ++ ("$" ++ (parameter ++ (" of method " ++ (owner ++ ("::" ++ (method ++
        "() expects callable, invoked later."))))))))))) []) parameter :=
    ⟨_, leads_all_cons (leads_anyCase (by decide)) <|
      leads_all_cons (leads_space (stops_before (by decide) _)) <|
      leads_all_cons (leads_ordinal n (stops_before (by decide) _)) <|
      leads_all_cons (leads_space (stops_before (by decide) _)) <|
      leads_all_cons (leads_exactly "$") <|
      leads_all_cons (leads_group 1 (leads_word isName (stops_before (by decide) _)))
        (leads_all_nil _),
      group?_captured ..⟩
  have named := find?_of_captures_start numbered
  rw [laterInvoked, parameterName?]
  simp only [List.append_assoc, ofString_append_append, String.reduceAppend] at named ⊢
  exact firstName?_of_find? named

/-- The position is the ordinal number less one, if its digits are not too many to be read. -/
theorem parameterPosition?_laterInvoked (n : Nat) (parameter owner method : Text) :
    parameterPosition? (laterInvoked (n + 1) parameter owner method) =
      if maxIntegerDigits < (Text.ofNat (n + 1)).length then
        .error (.tooLong (Text.ofNat (n + 1)).length)
      else .ok (some n) := by
  have numbered : (all [anyCase "parameter", blanks, ordinal]).Captures 2
      (between [] ("Parameter" ++ (" " ++ ("#" ++ (Text.ofNat (n + 1) ++ (" $" ++ (parameter ++
        (" of method " ++ (owner ++ ("::" ++ (method ++
          "() expects callable, invoked later.")))))))))) []) (Text.ofNat (n + 1)) :=
    ⟨_, leads_all_cons (leads_anyCase (by decide)) <|
      leads_all_cons (leads_space (stops_before (by decide) _)) <|
      leads_all_cons (leads_ordinal (n + 1) (stops_before (by decide) _)) (leads_all_nil _),
      group?_captured ..⟩
  have digits := find?_of_captures_start numbered
  rw [laterInvoked, parameterPosition?]
  simp only [List.append_assoc, ofString_append_append, String.reduceAppend] at digits ⊢
  rw [digits]
  simp only [readInteger_ofNat]
  split
  · rfl
  · simp [Except.map]

end Message

theorem Text.length_ofNat_le_iff {n count : Nat} (some : 0 < count) :
    (Text.ofNat n).length ≤ count ↔ n < 10 ^ count := by
  rw [Text.ofNat, List.length_map, Nat.length_toDigits_le_iff (by decide) some]

end DocRepair
