import DocRepair.Policy.Delimited
import DocRepair.Policy.Wildcard
import DocRepair.Text.Blank
import DocRepair.Text.Search

/-!
Which paths a pattern covers: an expression between slashes is searched for, a pattern that ends
with a slash covers a directory, a pattern with a star or a question mark is a wildcard, and any
other pattern is a path.
-/

namespace DocRepair.PathFilter

/-- A path with slashes for backslashes and without slashes at its end. -/
def normalize (path : Text) : Text :=
  Text.dropTrailing (· == '/') (Text.substitute '\\' "/" path)

def coversAsText (pattern path : Text) : Bool :=
  let p := normalize path
  let q := normalize pattern
  if p == q then true
  else if pattern.getLast? == some '/' then (p ++ "/").startsWith (q ++ "/")
  else if q.contains '*' || q.contains '?' then Wildcard.holds q true p
  else false

/-- Whether a pattern covers a path. An expression that is refused covers none. -/
def covers (re : Expressions) (pattern path : Text) : Except Thrown Bool :=
  match Delimited.ofText? pattern with
  | none => .ok (coversAsText pattern path)
  | some delimited =>
    match delimited.read re with
    | .ok found => .ok (found path)
    | .error (.refused _) => .ok false
    | .error (.raised thrown) => .error thrown

/-- Whether one of several patterns covers a path; those after the first that does are not read. -/
def coversAny (re : Expressions) (patterns : List Text) (path : Text) : Except Thrown Bool :=
  patterns.anyM (covers re · path)

end DocRepair.PathFilter
