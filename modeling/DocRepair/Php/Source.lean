import DocRepair.Php.Declarations
import DocRepair.Php.Grammar

namespace DocRepair.Php

/-- The declarations of a source. A source that is not well formed has none at all, since the line
numbers of a guessed tree could not be trusted. -/
def declarations? (source : Text) : Option SourceTree :=
  (tree? source).map (·.declarations source)

end DocRepair.Php
