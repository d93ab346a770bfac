import DocRepair.Text.CodePoint

/-!
Which lines two texts have in common.

The longest run of common lines is taken first, then the lines before it and the lines after it are
compared in the same way. In a long text, lines that occur often do not begin a run.
-/

namespace DocRepair.Diff

/-- A run of common lines: where it begins in the old and in the new text, and its length. -/
structure Run where
  old : Nat
  new : Nat
  length : Nat
  deriving DecidableEq, Repr

/-- A part of both texts, by the indices of the first lines and of the lines behind the last. -/
structure Window where
  oldFirst : Nat
  oldEnd : Nat
  newFirst : Nat
  newEnd : Nat
  deriving DecidableEq, Repr

/-- The least count of lines of a long text. -/
def longText : Nat := 200

/-- How often a line may occur in a text before it counts as frequent. -/
def frequentAbove (lineCount : Nat) : Nat := lineCount / 100 + 1

/-- The indices at which a line occurs, from an index on. -/
def indicesOf (line : Text) : (index : Nat) → List Text → List Nat
  | _, [] => []
  | index, other :: rest =>
    if other = line then index :: indicesOf line (index + 1) rest
    else indicesOf line (index + 1) rest

/-- The indices in the new text at which a run may begin or go on with a line: none for a frequent
line of a long text. -/
def partners (new : List Text) (line : Text) : List Nat :=
  let found := indicesOf line 0 new
  if longText ≤ new.length && frequentAbove new.length < found.length then [] else found

/-- The lengths of the runs that end at a line, given those that end at the line above, and the best
run so far; a later run has to be longer. -/
def extend (window : Window) (oldIndex : Nat) (above : List (Nat × Nat)) (best : Run) :
    List Nat → List (Nat × Nat) × Run
  | [] => ([], best)
  | j :: rest =>
    if j < window.newFirst then extend window oldIndex above best rest
    else if window.newEnd ≤ j then ([], best)
    else
      let length := (if j = 0 then 0 else (above.lookup (j - 1)).getD 0) + 1
      let best := if best.length < length then ⟨oldIndex + 1 - length, j + 1 - length, length⟩ else best
      let (others, best) := extend window oldIndex above best rest
      ((j, length) :: others, best)

/-- The best run whose last line is one of the given lines or an earlier one. -/
def bestRun (window : Window) : (oldIndex : Nat) → (above : List (Nat × Nat)) → Run →
    (partnersOfLines : List (List Nat)) → Run
  | _, _, best, [] => best
  | oldIndex, above, best, js :: rest =>
    let (lengths, best) := extend window oldIndex above best js
    bestRun window (oldIndex + 1) lengths best rest

/-- How many lines at the start of two lists are equal. -/
def commonLength : List Text → List Text → Nat
  | a :: s, b :: t => if a = b then commonLength s t + 1 else 0
  | _, _ => 0

/-- The longest run in a window, made longer by the equal lines around it. -/
def longestRun (old new : List Text) (partnersOfLines : List (List Nat)) (window : Window) : Run :=
  let oldLines := (old.take window.oldEnd).drop window.oldFirst
  let newLines := (new.take window.newEnd).drop window.newFirst
  let rows := (partnersOfLines.take window.oldEnd).drop window.oldFirst
  let best := bestRun window window.oldFirst [] ⟨window.oldFirst, window.newFirst, 0⟩ rows
  let before := commonLength (oldLines.take (best.old - window.oldFirst)).reverse
    (newLines.take (best.new - window.newFirst)).reverse
  let after := commonLength (oldLines.drop (best.old - window.oldFirst + best.length))
    (newLines.drop (best.new - window.newFirst + best.length))
  ⟨best.old - before, best.new - before, before + best.length + after⟩

/-- The runs in a window, in order. Every run takes a line away, so that the old lines bound the
depth. -/
def runsIn (old new : List Text) (partnersOfLines : List (List Nat)) :
    (fuel : Nat) → Window → List Run
  | 0, _ => []
  | fuel + 1, window =>
    let run := longestRun old new partnersOfLines window
    if run.length = 0 then []
    else
      runsIn old new partnersOfLines fuel ⟨window.oldFirst, run.old, window.newFirst, run.new⟩ ++
        run :: runsIn old new partnersOfLines fuel
          ⟨run.old + run.length, window.oldEnd, run.new + run.length, window.newEnd⟩

/-- Puts a run in front of others; runs that touch become one. -/
def joinRun (run : Run) : List Run → List Run
  | [] => [run]
  | next :: rest =>
    if run.old + run.length = next.old ∧ run.new + run.length = next.new then
      ⟨run.old, run.new, run.length + next.length⟩ :: rest
    else run :: next :: rest

/-- The runs of common lines of two texts, in order. -/
def commonRuns (old new : List Text) : List Run :=
  (runsIn old new (old.map (partners new)) (old.length + 1)
    ⟨0, old.length, 0, new.length⟩).foldr joinRun []

end DocRepair.Diff
