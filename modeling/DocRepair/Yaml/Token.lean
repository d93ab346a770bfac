import DocRepair.Text.CodePoint

namespace DocRepair.Yaml

inductive Directive where
  | version (major : Nat)
  /-- A handle stands for the start of tags. -/
  | handle (name start : Text)
  | reserved
  deriving DecidableEq, Repr

inductive Token where
  | directive (d : Directive)
  | documentStart
  | documentEnd
  | blockSequenceStart
  | blockMappingStart
  | blockEnd
  | flowSequenceStart
  | flowSequenceEnd
  | flowMappingStart
  | flowMappingEnd
  | flowEntry
  | blockEntry
  | key
  | value
  | alias (name : Text)
  | anchor (name : Text)
  /-- A tag; without a handle the suffix is the whole tag. -/
  | tag (handle : Option Text) (suffix : Text)
  | scalar (value : Text) (plain : Bool)
  deriving DecidableEq, Repr

end DocRepair.Yaml
