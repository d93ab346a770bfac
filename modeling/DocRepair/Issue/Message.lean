import DocRepair.Number.Integer
import DocRepair.Pattern.Matcher

namespace DocRepair.Message

open Pattern

/-- An optional class in front of a member name. -/
def ownerClass : Pattern :=
  optional (all [className, exactly "::"])

/-- Any variable: its name is group 1. -/
def anyVariable : Pattern :=
  all [exactly "$", .group 1 word]

def namedProperty : Pattern :=
  all [anyCase "property", blanks, ownerClass, exactly "$", .group 1 word]

/-- A method that is named as such, with the bracket of a call. -/
def calledMethod : Pattern :=
  all [anyCase "method", blanks, ownerClass, .group 1 word, many (cls .blank), exactly "("]

def namedMethod : Pattern :=
  all [anyCase "method", blanks, ownerClass, .group 1 word]

def namedFunction : Pattern :=
  all [anyCase "function", blanks, .group 1 word]

/-- The first of several patterns that occurs in a message gives a name. -/
def firstName? (patterns : List Pattern) (message : Text) : Option Text :=
  patterns.findSome? fun p => p.find? 1 message

/-- The property that a message mentions, without its dollar sign. -/
def propertyName? (message : Text) : Option Text :=
  firstName? [namedProperty, anyVariable] message

def methodName? (message : Text) : Option Text :=
  firstName? [calledMethod, namedMethod, namedFunction] message

def article : Pattern := optional (anyCase "an ")

def undefinedProperty : Pattern :=
  all [anyCase "access to ", article, anyCase "undefined property"]

def undefinedMethod : Pattern :=
  all [anyCase "call to ", article, anyCase "undefined method"]

def missingReturn : Pattern :=
  .alt (anyCase "has no return type") (anyCase "return type is missing")

/-- A parameter without a type. -/
def missingParameter : Pattern :=
  .alt (all [anyCase "parameter", restOfLine, anyCase "has no type specified"])
    (all [anyCase "has parameter $", word, anyCase " with no type specified"])

def isUndefinedProperty (message : Text) : Bool := undefinedProperty.occursIn message

def isUndefinedMethod (message : Text) : Bool := undefinedMethod.occursIn message

def isMissingReturn (message : Text) : Bool := missingReturn.occursIn message

/-- Whether a message is about a parameter without a type. -/
def isMissingParameter (message : Text) : Bool := missingParameter.occursIn message

def ordinal : Pattern := all [exactly "#", .group 2 (many1 (cls .digit))]

def numberedParameter : Pattern :=
  all [anyCase "parameter", blanks, ordinal, blanks, exactly "$", .group 1 word]

def namedParameter : Pattern :=
  all [anyCase "parameter", blanks, exactly "$", .group 1 word]

private def quote : Pattern := .set ⟨[.one '\'', .one '"'], false, false⟩

def quotedParameter : Pattern :=
  all [anyCase "parameter", blanks, quote, .group 1 word, quote]

/-- The parameter that a message mentions, without its dollar sign. -/
def parameterName? (message : Text) : Option Text :=
  firstName? [numberedParameter, namedParameter, quotedParameter, anyVariable] message

/-- The position, counted from zero, of the parameter that a message gives by its ordinal number,
which may be too long to be read. -/
def parameterPosition? (message : Text) : Except IntegerFault (Option Nat) :=
  match (all [anyCase "parameter", blanks, ordinal]).find? 2 message with
  | none => .ok none
  | some digits =>
    (readInteger digits).map fun n => if 0 < n then some (n - 1).toNat else none

/-- An exception that is thrown; the tag of that name is not meant. -/
def thrownException : Pattern :=
  all [.behind false 1 (exactly "@"), anyCase "throws", blanks,
    optional (all [anyCase "checked", blanks]), optional (all [anyCase "exception", blanks]),
    .group 1 className]

/-- An exception that is being thrown, perhaps between quotes. -/
def throwingException : Pattern :=
  all [anyCase "throwing", blanks, optional quote, .group 1 className, optional quote]

def exceptionName? (message : Text) : Option Text :=
  firstName? [thrownException, throwingException] message

end DocRepair.Message
