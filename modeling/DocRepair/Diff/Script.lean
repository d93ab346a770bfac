import DocRepair.Diff.Matching

namespace DocRepair.Diff

inductive Segment where
  | kept (lines : List Text)
  | changed (removed added : List Text)
  deriving DecidableEq, Repr

namespace Segment

def oldLines : Segment → List Text
  | .kept lines => lines
  | .changed removed _ => removed

def newLines : Segment → List Text
  | .kept lines => lines
  | .changed _ added => added

end Segment

/-- The change between two places, if there is one. -/
def change (removed added : List Text) : List Segment :=
  if removed.isEmpty && added.isEmpty then [] else [.changed removed added]

/-- The script along runs, from the places that have been reached; `old` and `new` are the lines
from there on. -/
def scriptAlong (oldReached newReached : Nat) (old new : List Text) : List Run → List Segment
  | [] => change old new
  | run :: rest =>
    let oldAfter := old.drop (run.old - oldReached)
    let newAfter := new.drop (run.new - newReached)
    change (old.take (run.old - oldReached)) (new.take (run.new - newReached)) ++
      .kept (oldAfter.take run.length) ::
        scriptAlong (run.old + run.length) (run.new + run.length) (oldAfter.drop run.length)
          (newAfter.drop run.length) rest

/-- The script that turns one text into another. -/
def script (old new : List Text) : List Segment :=
  scriptAlong 0 0 old new (commonRuns old new)

end DocRepair.Diff
