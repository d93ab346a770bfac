import DocRepair.Pattern.Matcher

namespace DocRepair.Wildcard

def piece (single : Bool) (c : CodePoint) : Pattern :=
  if c = '*' then Pattern.restOfLine
  else if single && c = '?' then Pattern.notNewline
  else Pattern.one c

/-- The pattern of a wildcard, which has to match the whole subject. -/
def compile (wildcard : Text) (single : Bool) : Pattern :=
  .seq (.anchor .textStart)
    (.seq (Pattern.all (wildcard.map (piece single))) (.anchor .lastLineEnd))

/-- Whether a wildcard matches a subject. -/
def holds (wildcard : Text) (single : Bool) (subject : Text) : Bool :=
  ((compile wildcard single).match? subject).isSome

end DocRepair.Wildcard
