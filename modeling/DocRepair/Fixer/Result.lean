import DocRepair.Issue.Basic
import DocRepair.Text.Search

namespace DocRepair

inductive Outcome where
  | success
  | failure
  | ignored
  | reported
  deriving DecidableEq, Repr

def Outcome.text : Outcome → Text
  | .success => "success"
  | .failure => "failure"
  | .ignored => "ignored"
  | .reported => "reported"

/-- The result of an attempt: only a success changes the content. -/
structure FixResult where
  issue : Issue
  outcome : Outcome
  content : Text
  description : Option Text := none
  changes : List Text := []
  deriving DecidableEq, Repr

namespace FixResult

def success (issue : Issue) (content : Text) (description : Option Text) (changes : List Text) :
    FixResult :=
  ⟨issue, .success, content, description, changes⟩

def unknownReason : Text := "Could not determine how to fix this issue"

/-- A failure; an empty reason counts as none. -/
def failure (issue : Issue) (content : Text) (reason : Text) : FixResult :=
  ⟨issue, .failure, content, some (if reason.isEmpty then unknownReason else reason), []⟩

def ignored (issue : Issue) (content : Text) : FixResult :=
  ⟨issue, .ignored, content, some "Ignored by configuration", []⟩

/-- A diagnostic that the policy only reports. -/
def reported (issue : Issue) (content : Text) : FixResult :=
  ⟨issue, .reported, content, some "Reported only (not fixed) by configuration", []⟩

def isSuccess (r : FixResult) : Bool := r.outcome == .success

def isFailure (r : FixResult) : Bool := r.outcome == .failure

def isIgnored (r : FixResult) : Bool := r.outcome == .ignored

def isReported (r : FixResult) : Bool := r.outcome == .reported

def summary (r : FixResult) : Text :=
  match r.description with
  | some description => description
  | none =>
    let base : Text :=
      (if r.isSuccess then "Fixed issue at line " else "Could not fix issue at line ") ++
        Text.ofInt r.issue.line
    if r.changes.isEmpty then base
    else base ++ " (" ++ Text.join ", " r.changes ++ ")"

end FixResult

end DocRepair
