import DocRepair.Policy.Expressions

namespace DocRepair

/-- An expression between slashes, with its flags. -/
structure Delimited where
  body : Text
  flags : Text
  deriving DecidableEq, Repr

namespace Delimited

/-- The flags that may follow the closing slash. -/
def isFlag (c : CodePoint) : Bool := c.isOneOf "imsxADSUXu"

/-- Reads a pattern of that form; the closing slash is the last one, and a line feed may follow
the flags. -/
def ofText? (pattern : Text) : Option Delimited :=
  match pattern with
  | [] => none
  | c :: rest =>
    if c = '/' then
      match Text.cutLast? rest "/" with
      | none => none
      | some (body, after) =>
        let flags := if after.getLast? == some '\n' then after.dropLast else after
        if !body.isEmpty && flags.all isFlag then some ⟨body, flags⟩ else none
    else none

/-- The switches that the flags stand for; the others mean nothing. -/
def switches (d : Delimited) : Pattern.Flags :=
  { anyCase := d.flags.contains 'i'
    multiline := d.flags.contains 'm'
    dotAll := d.flags.contains 's'
    verbose := d.flags.contains 'x' }

/-- The texts in which the expression is found. -/
def read (re : Expressions) (d : Delimited) : Except ExpressionFault (Text → Bool) :=
  re.read d.body d.switches

end Delimited

/-- Whether a text has the form of a pattern between slashes. -/
def isDelimited (pattern : Text) : Bool :=
  (Delimited.ofText? pattern).isSome

end DocRepair
