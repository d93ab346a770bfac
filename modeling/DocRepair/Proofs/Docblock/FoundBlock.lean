import DocRepair.Docblock.Location
import DocRepair.Proofs.Docblock.WrittenBlock

/-!
Which lines are found as the block above a line.

A block is one line with both marks, or an opening line, lines that are blank or begin with a star,
and a closing line. The scan finds exactly the lines of such a block that end directly above, and
nothing else decides what is found.
-/

namespace DocRepair.Docblock

open Text

/-- A line that may stand between the marks of a block: blank, or with a star in front. -/
def IsInner (line : Text) : Prop :=
  line.strip = [] ∨ line.strip.opensWith '*' = true

/-- Lines that make a block. A closing line that opens a block itself is a block of its own. -/
inductive BlockSpan : List Text → Prop
  | single {line : Text} (opens : line.strip.startsWith opener = true)
    (closes : line.strip.endsWith closer = true) : BlockSpan [line]
  | several {first last : Text} {inner : List Text} (opens : first.strip.startsWith opener = true)
    (between : ∀ line ∈ inner, IsInner line) (closes : last.strip.endsWith closer = true)
    (separate : last.strip.startsWith opener = false) : BlockSpan (first :: (inner ++ [last]))

theorem startsWith_opener_of_opensWith_star {t : Text} (starred : t.opensWith '*' = true) :
    t.startsWith opener = false := by
  have slash : ('/' : CodePoint) ≠ ('*' : CodePoint) := by decide
  cases t with
  | nil => cases starred
  | cons c rest =>
    obtain rfl : c = ('*' : CodePoint) := by simpa [opensWith] using starred
    simp [opener_text, startsWith, List.isPrefixOf, slash]

theorem IsInner.not_opens {line : Text} (inner : IsInner line) :
    line.strip.startsWith opener = false := by
  rcases inner with blank | starred
  · rw [blank]
    rfl
  · exact startsWith_opener_of_opensWith_star starred

/-- The first line of a block opens it, and the last one closes it. -/
theorem BlockSpan.ends {span : List Text} (block : BlockSpan span) :
    (∃ first, span.head? = some first ∧ first.strip.startsWith opener = true) ∧
      ∃ last, span.getLast? = some last ∧ last.strip.endsWith closer = true := by
  cases block with
  | @single line opens closes => exact ⟨⟨line, rfl, opens⟩, line, rfl, closes⟩
  | @several first last inner opens _ closes _ =>
    refine ⟨⟨first, rfl, opens⟩, last, ?_, closes⟩
    rw [← List.cons_append]
    exact List.getLast?_concat

/-! ### The scan -/

theorem openerAbove?_append {inner : List Text} {first : Text} (higher : List Text)
    (between : ∀ line ∈ inner, IsInner line) (opens : first.strip.startsWith opener = true) :
    openerAbove? (inner ++ first :: higher) = some inner.length := by
  induction inner with
  | nil => simp [openerAbove?, opens]
  | cons line rest ih =>
    have here := between line (by simp)
    have later := ih fun other member => between other (by simp [member])
    have allowed : (line.strip.isEmpty || line.strip.opensWith '*') = true := by
      rw [Bool.or_eq_true, List.isEmpty_iff]
      exact here
    simp [openerAbove?, here.not_opens, allowed, later]

/-- The scan stops at the first opening line, and only inner lines come before it. -/
theorem openerAbove?_eq_some {above : List Text} {distance : Nat}
    (found : openerAbove? above = some distance) :
    ∃ inner first higher, above = inner ++ first :: higher ∧ inner.length = distance ∧
      (∀ line ∈ inner, IsInner line) ∧ first.strip.startsWith opener = true := by
  induction above generalizing distance with
  | nil => simp [openerAbove?] at found
  | cons line rest ih =>
    simp only [openerAbove?] at found
    split at found
    · rename_i opens
      exact ⟨[], line, rest, rfl, by simpa using found, by simp, opens⟩
    · split at found
      · rename_i allowed
        obtain ⟨nearer, later, rfl⟩ := Option.map_eq_some_iff.mp found
        obtain ⟨inner, first, higher, rfl, count, between, opens⟩ := ih later
        refine ⟨line :: inner, first, higher, rfl, by simp [count], ?_, opens⟩
        intro other member
        rcases List.mem_cons.mp member with rfl | deeper
        · rwa [Bool.or_eq_true, List.isEmpty_iff] at allowed
        · exact between other deeper
      · cases found

/-! ### The block above a line -/

theorem Location.ofLines_append (front : List Text) {span : List Text} (back : List Text)
    (nonempty : span ≠ []) :
    Location.ofLines (front ++ span ++ back) front.length (front.length + span.length - 1) =
      ⟨unlines span, front.length, front.length + span.length - 1⟩ := by
  have some := List.length_pos_iff.mpr nonempty
  have reach : front.length + span.length - 1 + 1 = (front ++ span).length := by
    rw [List.length_append]
    omega
  rw [ofLines, reach, List.take_left, List.drop_left]

/-- A block directly above a line is found, whatever stands before it and from the line on. -/
theorem locateAt?_append (front : List Text) {span back : List Text} (block : BlockSpan span)
    (more : back ≠ []) :
    locateAt? (front ++ span ++ back) (front.length + span.length) =
      some ⟨unlines span, front.length, front.length + span.length - 1⟩ := by
  have inside : front.length + span.length < (front ++ span ++ back).length := by
    have some := List.length_pos_iff.mpr more
    simp only [List.length_append]
    omega
  have above : (front ++ span ++ back).take (front.length + span.length) = front ++ span := by
    rw [← List.length_append, List.take_left]
  simp only [locateAt?, inside, ↓reduceIte, above, List.reverse_append]
  cases block with
  | @single line opens closes =>
    have place := Location.ofLines_append front back (List.cons_ne_nil line [])
    rw [List.length_singleton, Nat.add_sub_cancel] at place
    simpa [opens, closes] using place
  | @several first last inner opens between closes separate =>
    have place := Location.ofLines_append front back (List.cons_ne_nil first (inner ++ [last]))
    have reversed : ∀ line ∈ inner.reverse, IsInner line :=
      fun line member => between line (List.mem_reverse.mp member)
    have scanned := openerAbove?_append front.reverse reversed opens
    have count : front.length + (first :: (inner ++ [last])).length - 2 - inner.length =
        front.length := by
      simp only [List.length_cons, List.length_append, List.length_nil]
      omega
    simp only [List.reverse_cons, List.reverse_append, List.reverse_nil, List.nil_append,
      List.append_assoc, List.cons_append, closes, separate, scanned, List.length_reverse,
      Option.map_some, Bool.not_true, Bool.false_eq_true, ↓reduceIte, count] at place ⊢
    rw [place]

theorem exists_blockSpan {lines : List Text} {anchor : Nat} {block : Location}
    (found : locateAt? lines anchor = some block) :
    ∃ front span back, lines = front ++ span ++ back ∧ back ≠ [] ∧
      anchor = front.length + span.length ∧ BlockSpan span ∧
      block = ⟨unlines span, front.length, anchor - 1⟩ := by
  simp only [locateAt?] at found
  split at found
  · rename_i inside
    have more : lines.drop anchor ≠ [] := by simpa using inside
    cases reversed : (lines.take anchor).reverse with
    | nil => simp [reversed] at found
    | cons last above =>
      have top : lines.take anchor = above.reverse ++ [last] := by
        simpa using congrArg List.reverse reversed
      have count : anchor = above.length + 1 := by
        simpa [Nat.min_eq_left (Nat.le_of_lt inside)] using congrArg List.length top
      have whole : lines = above.reverse ++ [last] ++ lines.drop anchor := by
        rw [← top, List.take_append_drop]
      simp only [reversed] at found
      split at found
      · cases found
      · rename_i unclosed
        have closes : last.strip.endsWith closer = true := by simpa using unclosed
        split at found
        · rename_i opens
          cases found
          refine ⟨above.reverse, [last], lines.drop anchor, whole, more, by simp [count],
            .single opens closes, ?_⟩
          have place := Location.ofLines_append above.reverse (lines.drop anchor)
            (List.cons_ne_nil last [])
          rw [← whole] at place
          simpa [count] using place
        · rename_i separate
          obtain ⟨distance, scanned, rfl⟩ := Option.map_eq_some_iff.mp found
          obtain ⟨inner, first, higher, rfl, rfl, between, opens⟩ := openerAbove?_eq_some scanned
          have parts : lines = higher.reverse ++ first :: (inner.reverse ++ [last]) ++
              lines.drop anchor := by
            simpa using whole
          refine ⟨higher.reverse, first :: (inner.reverse ++ [last]), lines.drop anchor, parts,
            more, ?_, .several opens ?_ closes (Bool.eq_false_iff.mpr separate), ?_⟩
          · simp only [count, List.length_append, List.length_cons, List.length_reverse,
              List.length_nil]
            omega
          · exact fun line member => between line (List.mem_reverse.mp member)
          · have place := Location.ofLines_append higher.reverse (lines.drop anchor)
              (List.cons_ne_nil first (inner.reverse ++ [last]))
            rw [← parts] at place
            simp only [List.length_append, List.length_cons, List.length_reverse,
              List.length_nil] at place count
            have start : anchor - 2 - inner.length = higher.length := by omega
            have finish : anchor - 1 = higher.length + (inner.length + (0 + 1) + 1) - 1 := by omega
            rw [start, finish, List.length_reverse]
            exact place
  · cases found

end DocRepair.Docblock
