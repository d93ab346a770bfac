import DocRepair.Fixer.Annotate
import DocRepair.Source.Locate
import DocRepair.Thrown

namespace DocRepair

/-- The declarations of a source, if it can be read. -/
abbrev Analyzer := Text → Option SourceTree

/-- A fixer claims diagnostics by themselves and edits contents. -/
structure Fixer where
  name : Text
  /-- The name of the fixer's class, which messages mention. -/
  className : Text
  description : Text
  priority : Int
  claims : Issue → Bool
  fix : Issue → Text → Except Thrown FixResult

namespace Fixer

/-- Why a fixer makes no edit. -/
inductive Obstacle where
  /-- The reason that the failure is given. -/
  | reason (text : Text)
  | thrown (fault : Thrown)
  deriving DecidableEq, Repr

/-- Runs a fix on the declarations of a content, which have to be readable. -/
def withTree (analyze : Analyzer) (issue : Issue) (content : Text)
    (fix : SourceTree → Except Thrown FixResult) : Except Thrown FixResult :=
  match analyze content with
  | none => .ok (.failure issue content "Could not parse file")
  | some tree => fix tree

/-- Adds a tag at a place, if there is one. -/
def annotate (issue : Issue) (content : Text) (found : Except Obstacle Addition) :
    Except Thrown FixResult :=
  match found with
  | .ok a => .ok (a.apply issue content)
  | .error (.reason text) => .ok (.failure issue content text)
  | .error (.thrown fault) => .error fault

/-- A value, or the reason why there is none. -/
def require {α : Type} (found : Option α) (reason : Text) : Except Obstacle α :=
  match found with
  | some a => .ok a
  | none => .error (.reason reason)

end Fixer

end DocRepair
