import DocRepair.Fixer.ClassTags
import DocRepair.Fixer.InlineVariable
import DocRepair.Fixer.Members
import DocRepair.Fixer.Mixin
import DocRepair.Fixer.Signature
import DocRepair.Fixer.ValueType

namespace DocRepair.Fixer

/-- A fixer whose class has its own name. -/
def plain (name : Text) (priority : Int) (description : Text) (claims : Text → Bool)
    (fix : Issue → Text → Except Thrown FixResult) : Fixer where
  name
  className := name
  description
  priority
  fix
  claims := fun issue => claims issue.message

private def claimsAny (patterns : List Pattern) (message : Text) : Bool :=
  patterns.any (·.occursIn message)

/-- The fixers in the order of their registration. -/
def builtins (analyze : Analyzer) : List Fixer :=
  [plain "MissingReturnDocblockFixer" 100
      "Adds @return annotation when PHPStan reports missing return type"
      Message.isMissingReturn (fixMissingReturn analyze),
    plain "MissingParamDocblockFixer" 90
      "Adds @param annotations when PHPStan reports missing parameter types"
      Message.isMissingParameter (fixMissingParameter analyze),
    plain "MissingPropertyDocblockFixer" 0
      "Adds @property or @var annotations for undefined properties"
      claimsProperty (fixMissingProperty analyze),
    plain "ReadonlyPropertyFixer" 0
      "Adds @readonly annotation for properties that should not be reassigned (PHP < 8.1)"
      claimsReadonly (fixReadonlyProperty analyze),
    plain "UndefinedVariableFixer" 0 "Adds inline @var annotation for undefined variables"
      (claimsAny undefinedVariable) (fun issue content => .ok (fixUndefinedVariable issue content)),
    plain "UndefinedMethodFixer" 0 "Adds @method annotations for undefined methods"
      Message.isUndefinedMethod (fixUndefinedMethod analyze),
    plain "MissingThrowsDocblockFixer" 0 "Adds @throws annotation when exceptions are thrown"
      (claimsAny undocumentedThrow) (fixMissingThrows analyze),
    plain "CallableTypeFixer" 0
      ("Adds callable invocation timing annotations " ++
        "(@param-immediately-invoked-callable, @param-later-invoked-callable)" : Text)
      (claimsAny callableMessages) (fixCallable analyze),
    plain "MixinFixer" 0
      "Adds @mixin annotation for classes using magic methods (__call, __get, __set)"
      (fun message => Message.isUndefinedMethod message || Message.isUndefinedProperty message)
      (fixMixin analyze),
    plain "ImpureFunctionFixer" 0
      ("Marks functions/methods as @phpstan-impure or @phpstan-pure based on " ++
        "purity diagnostics" : Text)
      (claimsAny [impureWords, pureWord]) (fixPurity analyze),
    plain "SealedClassFixer" 0 "Adds @phpstan-sealed annotation when extending sealed classes"
      (claimsAny [sealedClass.mention]) (fixClassTag sealedClass analyze),
    plain "RequireExtendsFixer" 0
      "Adds @phpstan-require-extends to interfaces/traits requiring a specific base class"
      (claimsAny [requireExtends.mention]) (fixClassTag requireExtends analyze),
    plain "RequireImplementsFixer" 0
      "Adds @phpstan-require-implements to traits requiring a specific interface"
      (claimsAny [requireImplements.mention]) (fixClassTag requireImplements analyze),
    plain "IterableValueTypeFixer" 0
      "Adds iterable value types when PHPStan reports missing iterable value type"
      (claimsAny [valueTypeMessage]) (fixValueType analyze)]

end DocRepair.Fixer
