import DocRepair.Proofs.Text.Pieces
import DocRepair.Text.Blank
import Mathlib.Data.List.Infix

/-!
Contents whose lines all end alike.

Such a content is the join of lines without line feeds, and lines put together in one style are
read in that style again, unless a line that ends in a carriage return is followed by a bare line
feed.
-/

namespace DocRepair

open Text

theorem Text.holds_iff_isInfix (t part : Text) : t.holds part = true ↔ part <:+: t := by
  induction t with
  | nil => simp [holds]
  | cons c rest ih =>
    rw [holds, Bool.or_eq_true, List.isPrefixOf_iff_prefix, ih, List.infix_cons_iff]

/-- The lines of a content, in its own line endings. -/
def fileLines (content : Text) : List Text :=
  (LineEnding.detect content).split content

/-- No line feed follows a carriage return, or every line feed does. -/
def UniformEndings (content : Text) : Prop :=
  content.holds "\r\n" = false ∨
    ∀ before after, content = before ++ ('\n' : CodePoint) :: after →
      before.getLast? = some ('\r' : CodePoint)

theorem pair_text : ("\r\n" : Text) = [('\r' : CodePoint), ('\n' : CodePoint)] := by
  simp [ofString]

theorem feed_text : ("\n" : Text) = [('\n' : CodePoint)] := by simp [ofString]

namespace LineEnding

theorem split_ne_nil (ending : LineEnding) (content : Text) : ending.split content ≠ [] := by
  cases ending <;> simp [split]

theorem join_split (ending : LineEnding) (content : Text) :
    ending.join (ending.split content) = content := by
  cases ending
  · simp [join, split, text, feed_text]
  · simp [join, split, text, pair_text]

theorem split_append (ending : LineEnding) (s t : Text) :
    ending.split (s ++ ending.text ++ t) = ending.split s ++ ending.split t := by
  cases ending with
  | lf => simpa [split, text, feed_text] using splitAt_append_cons ('\n' : CodePoint) s t
  | crlf =>
    have distinct : ('\r' : CodePoint) ≠ ('\n' : CodePoint) := by decide
    simpa [split, text, pair_text] using splitAtPair_append distinct s t

/-- Put together, texts are cut where they were put together and where each of them is cut. -/
theorem split_join_flatMap (ending : LineEnding) {texts : List Text} (nonempty : texts ≠ []) :
    ending.split (ending.join texts) = texts.flatMap ending.split := by
  rw [join]
  induction texts with
  | nil => exact absurd rfl nonempty
  | cons first rest ih =>
    cases rest with
    | nil => simp [Text.join]
    | cons next others =>
      rw [join_cons _ _ (by simp), split_append, ih (by simp)]
      rfl

theorem length_le_flatMap_split (ending : LineEnding) (texts : List Text) :
    texts.length ≤ (texts.flatMap ending.split).length := by
  induction texts with
  | nil => simp
  | cons first rest ih =>
    have some := List.length_pos_iff.mpr (split_ne_nil ending first)
    simp only [List.flatMap_cons, List.length_append, List.length_cons]
    omega

theorem length_le_split_join (ending : LineEnding) {texts : List Text} (nonempty : texts ≠ []) :
    texts.length ≤ (ending.split (ending.join texts)).length := by
  rw [split_join_flatMap ending nonempty]
  exact ending.length_le_flatMap_split texts

/-- Cut once, a content is not cut any further. -/
theorem split_of_mem_split (ending : LineEnding) {content line : Text}
    (member : line ∈ ending.split content) : ending.split line = [line] := by
  have again : (ending.split content).flatMap ending.split = ending.split content := by
    rw [← split_join_flatMap ending (split_ne_nil ending content), join_split]
  generalize ending.split content = lines at member again
  induction lines with
  | nil => cases member
  | cons first rest ih =>
    obtain ⟨piece, others, pieces⟩ := List.exists_cons_of_ne_nil (split_ne_nil ending first)
    rw [List.flatMap_cons, pieces, List.cons_append, List.cons.injEq] at again
    obtain ⟨rfl, behind⟩ := again
    have long := ending.length_le_flatMap_split rest
    have total := congrArg List.length behind
    rw [List.length_append] at total
    obtain rfl : others = [] := List.length_eq_zero_iff.mp (by omega)
    rcases List.mem_cons.mp member with rfl | later
    · exact pieces
    · exact ih later behind

/-- The first lines of a content are read back from any content that begins with them. -/
theorem getElem?_split_join (ending : LineEnding) {content : Text} {n i : Nat} (early : i < n)
    (inside : i < (ending.split content).length) (back : List Text) :
    (ending.split (ending.join ((ending.split content).take n ++ back)))[i]? =
      (ending.split content)[i]? := by
  have long : i < ((ending.split content).take n).length := by
    rw [List.length_take]
    omega
  have front : ((ending.split content).take n).flatMap ending.split =
      (ending.split content).take n := by
    have each : ∀ line ∈ (ending.split content).take n, ending.split line = [line] :=
      fun line member => ending.split_of_mem_split (List.mem_of_mem_take member)
    rw [List.flatMap_congr each, List.flatMap_singleton']
  have nonempty : (ending.split content).take n ++ back ≠ [] := by
    apply List.append_ne_nil_of_left_ne_nil
    exact List.ne_nil_of_length_pos (by omega)
  rw [split_join_flatMap ending nonempty, List.flatMap_append, front,
    List.getElem?_append_left long, List.getElem?_take_of_lt early]

theorem split_of_not_mem (ending : LineEnding) {line : Text} (free : ('\n' : CodePoint) ∉ line) :
    ending.split line = [line] := by
  cases ending with
  | lf => exact splitAt_of_not_mem free
  | crlf => exact splitAtPair_of_not_mem free

/-- Lines without line feeds are read back in the style in which they were put together. -/
theorem split_join (ending : LineEnding) {lines : List Text} (nonempty : lines ≠ [])
    (free : ∀ line ∈ lines, ('\n' : CodePoint) ∉ line) :
    ending.split (ending.join lines) = lines := by
  have each : lines.flatMap ending.split = lines.flatMap fun line => [line] :=
    List.flatMap_congr fun line member => ending.split_of_not_mem (free line member)
  rw [split_join_flatMap ending nonempty, each, List.flatMap_singleton']

end LineEnding

/-! ### Carriage returns before line feeds -/

theorem holds_pair_iff (t : Text) :
    t.holds "\r\n" = true ↔ 2 ≤ (splitAtPair '\r' '\n' t).length := by
  rw [pair_text]
  fun_induction splitAtPair ('\r' : CodePoint) ('\n' : CodePoint) t with
  | case1 => simp [holds]
  | case2 c => simp [holds]
  | case3 c d rest same ih =>
    have pieces := List.length_pos_iff.mpr (splitAtPair_ne_nil ('\r' : CodePoint) '\n' rest)
    obtain ⟨rfl, rfl⟩ := same
    have long : 2 ≤ (splitAtPair ('\r' : CodePoint) '\n' rest).length + 1 := by omega
    simpa [holds] using long
  | case4 c d rest other ih =>
    obtain ⟨piece, others, pieces⟩ :=
      List.exists_cons_of_ne_nil (splitAtPair_ne_nil ('\r' : CodePoint) '\n' (d :: rest))
    have missing :
        [('\r' : CodePoint), ('\n' : CodePoint)].isPrefixOf (c :: d :: rest) = false := by
      simp only [List.isPrefixOf, Bool.and_true, Bool.and_eq_false_iff, beq_eq_false_iff_ne]
      by_contra both
      simp only [not_or, not_not] at both
      exact other ⟨both.1.symm, both.2.symm⟩
    rw [holds, missing, Bool.false_or, ih, pieces, consFirst]
    simp

def endsInReturn (line : Text) : Bool := line.getLast? == some ('\r' : CodePoint)

theorem endsInReturn_append (front : Text) {t : Text} (nonempty : t ≠ []) :
    endsInReturn (front ++ t) = endsInReturn t := by
  obtain ⟨c, rest, rfl⟩ := List.exists_cons_of_ne_nil nonempty
  simp [endsInReturn, List.getLast?_append]

theorem endsInReturn_append_of_not_mem (front : Text) {t : Text} (nonempty : t ≠ [])
    (free : ('\r' : CodePoint) ∉ t) : endsInReturn (front ++ t) = false := by
  rw [endsInReturn_append front nonempty, endsInReturn, beq_eq_false_iff_ne]
  exact fun last => free (List.mem_of_getLast? last)

/-- A carriage return is white space, so a text that ends otherwise does not end in one. -/
theorem endsInReturn_of_last {t : Text} (last : ∀ c ∈ t.getLast?, c.isBlank = false) :
    endsInReturn t = false := by
  rw [endsInReturn, beq_eq_false_iff_ne]
  intro found
  have solid := last _ found
  revert solid
  decide

private theorem length_splitAtPair_append {line : Text} (t : Text)
    (free : ('\n' : CodePoint) ∉ line) :
    (splitAtPair '\r' '\n' (line ++ ('\n' : CodePoint) :: t)).length =
      (splitAtPair '\r' '\n' t).length + if endsInReturn line then 1 else 0 := by
  have kept : ∀ c : CodePoint, ∀ pieces : List Text, pieces ≠ [] →
      (consFirst c pieces).length = pieces.length := by
    intro c pieces nonempty
    obtain ⟨first, rest, rfl⟩ := List.exists_cons_of_ne_nil nonempty
    rfl
  induction line with
  | nil =>
    cases t with
    | nil => rfl
    | cons d rest =>
      have other : ¬(('\n' : CodePoint) = '\r' ∧ d = ('\n' : CodePoint)) := by
        rintro ⟨feed, _⟩
        revert feed
        decide
      rw [List.nil_append, splitAtPair, if_neg other, kept _ _ (by simp)]
      rfl
  | cons c rest ih =>
    have later := ih fun member => free (by simp [member])
    cases rest with
    | nil =>
      by_cases pair : c = ('\r' : CodePoint)
      · simp [splitAtPair, pair, endsInReturn]
      · have other : ¬(c = ('\r' : CodePoint) ∧ ('\n' : CodePoint) = '\n') :=
          fun both => pair both.1
        rw [List.singleton_append, splitAtPair, if_neg other, kept _ _ (by simp)]
        simpa [endsInReturn, pair] using later
    | cons d more =>
      have plain : d ≠ ('\n' : CodePoint) := fun same => free (by simp [same])
      rw [List.cons_append, List.cons_append, splitAtPair, if_neg fun both => plain both.2,
        kept _ _ (by simp), ← List.cons_append, later]
      simp [endsInReturn]

/-- Read in pairs, lines that end in bare line feeds are cut where a line ends in a carriage
return. -/
theorem length_splitAtPair_unlines {lines : List Text} (nonempty : lines ≠ [])
    (free : ∀ line ∈ lines, ('\n' : CodePoint) ∉ line) :
    (splitAtPair '\r' '\n' (unlines lines)).length = lines.dropLast.countP endsInReturn + 1 := by
  induction lines with
  | nil => exact absurd rfl nonempty
  | cons line rest ih =>
    have here := free line (by simp)
    cases rest with
    | nil => simp [unlines, join, splitAtPair_of_not_mem here]
    | cons next others =>
      have later := ih (by simp) fun other member => free other (by simp [member])
      have cut : unlines (line :: next :: others) =
          line ++ ('\n' : CodePoint) :: unlines (next :: others) := by
        simp [unlines, join, newline]
      have more : (line :: next :: others).dropLast = line :: (next :: others).dropLast := rfl
      rw [cut, length_splitAtPair_append _ here, later, more, List.countP_cons]
      omega

theorem LineEnding.detect_eq_lf_iff (content : Text) :
    LineEnding.detect content = .lf ↔ (splitAtPair '\r' '\n' content).length = 1 := by
  have pieces := List.length_pos_iff.mpr (splitAtPair_ne_nil ('\r' : CodePoint) '\n' content)
  have pair := holds_pair_iff content
  rw [LineEnding.detect]
  split
  · rename_i found
    have many := pair.mp found
    simp only [reduceCtorEq, false_iff]
    omega
  · rename_i missing
    have few := mt pair.mpr missing
    simp only [true_iff]
    omega

/-- Lines put together with bare line feeds are read so again exactly if none of them, but for the
last, ends in a carriage return. -/
theorem LineEnding.detect_join_lf {lines : List Text} (nonempty : lines ≠ [])
    (free : ∀ line ∈ lines, ('\n' : CodePoint) ∉ line) :
    LineEnding.detect (LineEnding.lf.join lines) = .lf ↔
      lines.dropLast.countP endsInReturn = 0 := by
  have joined : LineEnding.lf.join lines = unlines lines := by
    rw [LineEnding.join, LineEnding.text, feed_text]
    rfl
  have count := length_splitAtPair_unlines nonempty free
  rw [joined, LineEnding.detect_eq_lf_iff, count]
  omega

theorem exists_two_lines {lines : List Text} (several : 2 ≤ lines.length) :
    ∃ first second others, lines = first :: second :: others := by
  cases lines with
  | nil => simp at several
  | cons first rest =>
    cases rest with
    | nil => simp at several
    | cons second others => exact ⟨first, second, others, rfl⟩

theorem LineEnding.detect_join_crlf {lines : List Text} (several : 2 ≤ lines.length) :
    LineEnding.detect (LineEnding.crlf.join lines) = .crlf := by
  obtain ⟨first, second, others, rfl⟩ := exists_two_lines several
  have found : (LineEnding.crlf.join (first :: second :: others)).holds "\r\n" = true := by
    rw [holds_iff_isInfix, LineEnding.join, LineEnding.text, Text.join]
    exact (List.suffix_append _ _).isInfix.trans (List.prefix_append _ _).isInfix
  rw [LineEnding.detect, if_pos found]

/-- Text without carriage returns in front brings no pair. -/
theorem holds_pair_append {front : Text} (without : ('\r' : CodePoint) ∉ front) (t : Text) :
    (front ++ t).holds "\r\n" = t.holds "\r\n" := by
  induction front with
  | nil => rfl
  | cons c rest ih =>
    have other : ('\r' : CodePoint) ≠ c := fun same => without (by simp [same])
    have later := ih fun member => without (by simp [member])
    rw [List.cons_append, holds, later, pair_text]
    simp [List.isPrefixOf, other]

/-- No line of a text ends in a carriage return, if no line feed follows one and the text does not
end in one. -/
theorem lines_plain {t : Text} (bare : t.holds "\r\n" = false) (last : endsInReturn t = false) :
    ∀ line ∈ lines t, endsInReturn line = false := by
  have free : ∀ line ∈ lines t, ('\n' : CodePoint) ∉ line :=
    fun line member => not_mem_of_mem_splitAt member
  have joined : unlines (lines t) = t := join_splitAt _ t
  have pieces : lines t ≠ [] := splitAt_ne_nil _ t
  have count := length_splitAtPair_unlines pieces free
  have single := mt (holds_pair_iff t).mpr (by simp [bare])
  rw [joined] at count
  have none : (lines t).dropLast.countP endsInReturn = 0 := by omega
  have front : ∀ line ∈ (lines t).dropLast, endsInReturn line = false := by
    simpa [List.countP_eq_zero] using none
  have ends := List.dropLast_append_getLast pieces
  intro line member
  rw [← ends] at member joined
  rcases List.mem_append.mp member with early | final
  · exact front line early
  · rw [List.mem_singleton.mp final]
    by_cases empty : (lines t).getLast pieces = []
    · rw [empty]
      rfl
    · by_cases alone : (lines t).dropLast = []
      · rw [alone, List.nil_append] at joined
        rw [show (lines t).getLast pieces = t from joined]
        exact last
      · rw [unlines, join_append _ alone (by simp)] at joined
        rw [← joined] at last
        rwa [endsInReturn_append] at last
        exact empty

/-! ### Uniform contents -/

private theorem free_splitAtPair {t : Text}
    (paired : ∀ before after, t = before ++ ('\n' : CodePoint) :: after →
      before.getLast? = some ('\r' : CodePoint)) :
    ∀ line ∈ splitAtPair '\r' '\n' t, ('\n' : CodePoint) ∉ line := by
  fun_induction splitAtPair ('\r' : CodePoint) ('\n' : CodePoint) t with
  | case1 => simp
  | case2 c =>
    have plain : c ≠ ('\n' : CodePoint) := by
      rintro rfl
      simpa using paired [] [] rfl
    simpa using Ne.symm plain
  | case3 c d rest same ih =>
    have later := ih ?_
    · simpa using later
    · intro before after split
      have last := paired (c :: d :: before) after (by simp [split])
      cases before with
      | nil => simp [same.2] at last
      | cons e more => simpa using last
  | case4 c d rest other ih =>
    have plain : c ≠ ('\n' : CodePoint) := by
      rintro rfl
      simpa using paired [] (d :: rest) rfl
    have later := ih ?_
    · obtain ⟨piece, others, pieces⟩ :=
        List.exists_cons_of_ne_nil (splitAtPair_ne_nil ('\r' : CodePoint) '\n' (d :: rest))
      rw [pieces] at later ⊢
      intro line member
      rcases List.mem_cons.mp member with rfl | more
      · simp [Ne.symm plain, later piece (by simp)]
      · exact later line (by simp [more])
    · intro before after split
      have last := paired (c :: before) after (by simp [split])
      cases before with
      | nil =>
        obtain ⟨rfl, _⟩ : d = ('\n' : CodePoint) ∧ rest = after := by simpa using split
        exact absurd ⟨by simpa using last, rfl⟩ other
      | cons e more => simpa using last

theorem UniformEndings.free {content : Text} (uniform : UniformEndings content) :
    ∀ line ∈ fileLines content, ('\n' : CodePoint) ∉ line := by
  rw [fileLines, LineEnding.detect]
  split
  · rename_i found
    exact free_splitAtPair (uniform.resolve_left (by simp [found]))
  · intro line member
    exact not_mem_of_mem_splitAt member

/-- Every line feed follows a carriage return, if none is left between the pairs. -/
private theorem paired_of_free {t : Text}
    (free : ∀ line ∈ splitAtPair '\r' '\n' t, ('\n' : CodePoint) ∉ line) :
    ∀ before after, t = before ++ ('\n' : CodePoint) :: after →
      before.getLast? = some ('\r' : CodePoint) := by
  fun_induction splitAtPair ('\r' : CodePoint) ('\n' : CodePoint) t with
  | case1 => simp
  | case2 c =>
    intro before after parts
    cases before with
    | nil => simp_all
    | cons d more => simp at parts
  | case3 c d rest same ih =>
    intro before after parts
    cases before with
    | nil =>
      obtain ⟨rfl, _⟩ : c = ('\n' : CodePoint) ∧ d :: rest = after := by simpa using parts
      exact absurd same.1 (by decide)
    | cons e behind =>
      obtain ⟨rfl, next⟩ : c = e ∧ d :: rest = behind ++ ('\n' : CodePoint) :: after := by
        simpa using parts
      cases behind with
      | nil => simp [same.1]
      | cons f more =>
        have later : rest = more ++ ('\n' : CodePoint) :: after := (List.cons.inj next).2
        have last := ih (fun line member => free line (by simp [member])) more after later
        simp [List.getLast?_cons, last]
  | case4 c d rest other ih =>
    obtain ⟨piece, others, pieces⟩ :=
      List.exists_cons_of_ne_nil (splitAtPair_ne_nil ('\r' : CodePoint) '\n' (d :: rest))
    rw [pieces] at free ih
    have first := free (c :: piece) (by simp [consFirst])
    intro before after parts
    cases before with
    | nil =>
      obtain ⟨rfl, _⟩ : c = ('\n' : CodePoint) ∧ d :: rest = after := by simpa using parts
      simp at first
    | cons e more =>
      have later : d :: rest = more ++ ('\n' : CodePoint) :: after := (List.cons.inj parts).2
      have last := ih (fun line member => ?_) more after later
      · simp [List.getLast?_cons, last]
      · rcases List.mem_cons.mp member with rfl | deeper
        · exact fun feed => first (by simp [feed])
        · exact free line (by simp [consFirst, deeper])

/-- All lines of a content are free of line feeds only if its line ends are alike. -/
theorem uniformEndings_iff :
    UniformEndings content ↔ ∀ line ∈ fileLines content, ('\n' : CodePoint) ∉ line := by
  refine ⟨UniformEndings.free, fun free => ?_⟩
  by_cases paired : content.holds "\r\n" = true
  · rw [fileLines, LineEnding.detect, if_pos paired] at free
    exact .inr (paired_of_free free)
  · exact .inl (by simpa using paired)

theorem fileLines_ne_nil (content : Text) : fileLines content ≠ [] :=
  LineEnding.split_ne_nil _ content

theorem join_fileLines (content : Text) :
    (LineEnding.detect content).join (fileLines content) = content :=
  LineEnding.join_split _ content

/-- In a content with bare line feeds no line but the last ends in a carriage return. -/
theorem fileLines_plain {content : Text} (bare : LineEnding.detect content = .lf) :
    ∀ line ∈ (fileLines content).dropLast, endsInReturn line = false := by
  have free : ∀ line ∈ fileLines content, ('\n' : CodePoint) ∉ line := by
    rw [fileLines, bare]
    exact fun line member => not_mem_of_mem_splitAt member
  have joined := join_fileLines content
  rw [bare] at joined
  have count := (LineEnding.detect_join_lf (fileLines_ne_nil content) free).mp
    (by rw [joined, bare])
  simpa [List.countP_eq_zero] using count

theorem two_le_length_fileLines {content : Text} (paired : LineEnding.detect content = .crlf) :
    2 ≤ (fileLines content).length := by
  rw [fileLines, paired]
  apply (holds_pair_iff content).mp
  by_contra missing
  rw [LineEnding.detect, if_neg missing] at paired
  cases paired

/-- Lines put together in a style in which they are read again are the lines of the content. -/
theorem fileLines_join {ending : LineEnding} {lines : List Text} (nonempty : lines ≠ [])
    (free : ∀ line ∈ lines, ('\n' : CodePoint) ∉ line)
    (same : LineEnding.detect (ending.join lines) = ending) :
    fileLines (ending.join lines) = lines := by
  rw [fileLines, same, LineEnding.split_join ending nonempty free]

end DocRepair
