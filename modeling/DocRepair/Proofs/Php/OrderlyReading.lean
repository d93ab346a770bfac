import DocRepair.Php.Reading
import DocRepair.Proofs.Php.Nesting

/-!
What readers leave behind: nodes that lie one behind the other, up to the end of what has been read.

A triple says how a reader goes on from what has been read before it. There is one rule for each way
in which the grammar puts readers together.
-/

namespace DocRepair.Php

open Node

/-! ### Tokens in order -/

/-- Tokens from one line to another, one behind the other. -/
def Spread (last : Nat) : (first : Nat) → List Token → Prop
  | first, [] => first ≤ last
  | first, t :: rest =>
    first ≤ t.firstLine ∧ t.firstLine ≤ t.lastLine ∧ Spread last t.lastLine rest

theorem Spread.mono {last first earlier : Nat} {tokens : List Token}
    (spread : Spread last first tokens) (above : earlier ≤ first) : Spread last earlier tokens := by
  cases tokens with
  | nil => exact above.trans spread
  | cons t rest => exact ⟨above.trans spread.1, spread.2⟩

theorem Spread.le {last first : Nat} {tokens : List Token} (spread : Spread last first tokens) :
    first ≤ last := by
  induction tokens generalizing first with
  | nil => exact spread
  | cons t rest ih => exact spread.1.trans (spread.2.1.trans (ih spread.2.2))

theorem Spread.skipSections {last first : Nat} {tokens : List Token}
    (spread : Spread last first tokens) : Spread last first (Reader.skipSections tokens) := by
  induction tokens with
  | nil => exact spread
  | cons t rest ih =>
    rw [Reader.skipSections]
    split
    · exact ih (spread.2.2.mono (spread.1.trans spread.2.1))
    · exact spread

/-- What the lexer has found so far, followed by tokens from its line on. -/
theorem spread_tokensFrom {fuel offset line last : Nat} {modes : List Mode} {t : Text}
    {found tokens : List Token}
    (sofar : ∀ more, Spread last line more → Spread last 0 (found.reverse ++ more))
    (inside : line + t.count ('\n' : CodePoint) ≤ last)
    (read : tokensFrom fuel offset line modes found t = some tokens) : Spread last 0 tokens := by
  induction fuel generalizing offset line modes t found with
  | zero => cases read
  | succ fuel ih =>
    rw [tokensFrom] at read
    split at read
    · split at read
      · obtain rfl : found.reverse = tokens := by simpa using read
        simpa using sofar [] ((Nat.le_add_right _ _).trans inside)
      · cases read
    · split at read
      · cases read
      · rename_i step _
        split at read
        · cases read
        · have parts : (t.take step.length).count ('\n' : CodePoint) +
              (t.drop step.length).count ('\n' : CodePoint) = t.count ('\n' : CodePoint) := by
            rw [← List.count_append, List.take_append_drop]
          have forward := Nat.le_add_right line ((t.take step.length).count ('\n' : CodePoint))
          refine ih (fun more spread => ?_) (by omega) read
          split
          · rw [List.reverse_cons, List.append_assoc, List.singleton_append]
            exact sofar _ ⟨Nat.le_refl _, forward, spread⟩
          · exact sofar _ (spread.mono forward)

theorem spread_tokens? {source : Text} {tokens : List Token} (read : tokens? source = some tokens) :
    Spread (source.count ('\n' : CodePoint)) 0 tokens := by
  refine spread_tokensFrom ?_ ?_ read
  · exact fun more spread => spread.mono (Nat.zero_le _)
  · rw [← List.count_append, List.take_append_drop]

namespace ReaderState

/-- The line on which the next token begins; at the end, that of what has been read. -/
def nextLine (s : ReaderState) : Nat :=
  match Reader.skipSections s.tokens with
  | t :: _ => t.firstLine
  | [] => s.lastLine

theorem lastLine_le_nextLine {last : Nat} {s : ReaderState}
    (ready : Spread last s.lastLine s.tokens) : s.lastLine ≤ s.nextLine := by
  have rest := ready.skipSections
  rw [nextLine]
  split
  · rename_i eq
    rw [eq] at rest
    exact rest.1
  · exact Nat.le_refl _

end ReaderState

/-! ### Triples -/

/-- What has been read: whether anything, and the nodes of it. A node takes up lines only if at
least one token has been read for it. -/
structure Trace where
  moved : Bool
  nodes : List Node

namespace Trace

def start : Trace := ⟨false, []⟩

/-- Another trace says no more than this one. -/
structure Covers (t u : Trace) : Prop where
  moved : (u.moved = true → t.moved = true) ∨ t.nodes ≠ []
  nodes : (u.nodes.map bare).Sublist (t.nodes.map bare)

/-- A trace describes what has been read from a line up to a state. -/
structure Holds (bound first : Nat) (t : Trace) (s : ReaderState) : Prop where
  ready : Spread bound s.lastLine s.tokens
  ahead : first ≤ s.nextLine
  moved : t.moved = true → first ≤ s.lastLine
  laid : Laid first s.lastLine t.nodes

variable {bound first : Nat} {t u : Trace} {s : ReaderState}

@[simp] theorem moved_start : start.moved = false := rfl
@[simp] theorem nodes_start : start.nodes = [] := rfl

@[simp] theorem covers_iff : t.Covers u ↔ ((u.moved = true → t.moved = true) ∨ t.nodes ≠ []) ∧
    (u.nodes.map bare).Sublist (t.nodes.map bare) :=
  ⟨fun covers => ⟨covers.moved, covers.nodes⟩, fun ⟨moved, nodes⟩ => ⟨moved, nodes⟩⟩

theorem Covers.refl (t : Trace) : t.Covers t := ⟨.inl id, .refl _⟩

theorem Holds.of_covers (holds : t.Holds bound first s) (covers : t.Covers u) :
    u.Holds bound first s where
  ready := holds.ready
  ahead := holds.ahead
  moved read := covers.moved.elim (fun same => holds.moved (same read)) holds.laid.forward
  laid := holds.laid.sublist covers.nodes

end Trace

/-- A reader that begins in a state with one trace gives each result in a state with another one.
Both traces count from the line `first`, and no token ends behind the line `bound`. -/
def Leads {α : Type} (bound first : Nat) (t : Trace) (r : Reader α) (after : α → Trace) : Prop :=
  ∀ s x s', t.Holds bound first s → r s = some (x, s') → (after x).Holds bound first s'

theorem Reader.bind_eq_some_iff {α β : Type} {r : Reader α} {f : α → Reader β} {s s' : ReaderState}
    {y : β} : (r >>= f) s = some (y, s') ↔
      ∃ x between, r s = some (x, between) ∧ f x between = some (y, s') := by
  simp [bind, StateT.bind, Option.bind_eq_some_iff]

namespace Leads

variable {α β : Type} {bound first : Nat} {t u : Trace} {r : Reader α} {f : α → Reader β}
  {after : α → Trace} {final : β → Trace}

theorem failure : Leads bound first t (failure : Reader α) after :=
  fun _ _ _ _ read => by cases read

theorem failure_bind : Leads bound first t ((Alternative.failure : Reader α) >>= f) final := by
  intro _ _ _ _ read
  cases read

theorem pure {x : α} (covers : t.Covers (after x)) :
    Leads bound first t (pure x) after := by
  intro s y s' holds read
  cases read
  exact holds.of_covers covers

theorem before (leads : Leads bound first u r after) (covers : t.Covers u) :
    Leads bound first t r after :=
  fun s x s' holds => leads s x s' (holds.of_covers covers)

theorem weaken {weaker : α → Trace} (leads : Leads bound first t r after)
    (covers : ∀ x, (after x).Covers (weaker x)) : Leads bound first t r weaker :=
  fun s x s' holds read => (leads s x s' holds read).of_covers (covers x)

theorem bind (leads : Leads bound first t r after)
    (next : ∀ x, Leads bound first (after x) (f x) final) :
    Leads bound first t (r >>= f) final := by
  intro s y s' holds read
  obtain ⟨x, between, done, more⟩ := Reader.bind_eq_some_iff.mp read
  exact next x between y s' (leads s x between holds done) more

theorem pure_bind {x : α} (next : Leads bound first t (f x) final) :
    Leads bound first t (Pure.pure x >>= f) final :=
  next

theorem ite {c : Prop} [Decidable c] {a b : Reader α} (yes : Leads bound first t a after)
    (no : Leads bound first t b after) : Leads bound first t (if c then a else b) after := by
  split
  · exact yes
  · exact no

end Leads

/-! ### Readers that only look -/

/-- A reader that leaves everything to be read. -/
def Looks {α : Type} (r : Reader α) : Prop :=
  ∀ s x s', r s = some (x, s') → s' = s

namespace Looks

variable {α β : Type} {r : Reader α} {f : α → Reader β}

theorem get : Looks (get : Reader ReaderState) := by
  intro s x s' read
  cases read
  rfl

theorem pure (x : α) : Looks (pure x : Reader α) := by
  intro s y s' read
  cases read
  rfl

theorem bind (looks : Looks r) (next : ∀ x, Looks (f x)) : Looks (r >>= f) := by
  intro s y s' read
  obtain ⟨x, between, done, more⟩ := Reader.bind_eq_some_iff.mp read
  rw [next x between y s' more, looks s x between done]

theorem ite {c : Prop} [Decidable c] {a b : Reader α} (yes : Looks a) (no : Looks b) :
    Looks (if c then a else b) := by
  split
  · exact yes
  · exact no

theorem not {r : Reader Bool} (looks : Looks r) : Looks (do return !(← r)) :=
  .bind looks fun _ => .pure _

theorem peek : Looks Reader.peek := .bind .get fun _ => .pure _

theorem peekSecond : Looks Reader.peekSecond := .bind .get fun _ => .pure _

theorem peekThird : Looks Reader.peekThird := .bind .get fun _ => .pure _

theorem peekWord : Looks Reader.peekWord := .bind .peek fun _ => .pure _

theorem remaining : Looks Reader.remaining := .bind .get fun _ => .pure _

theorem atSign (sign : String) : Looks (Reader.atSign sign) := .bind .peek fun _ => .pure _

theorem atWord (word : Text) : Looks (Reader.atWord word) := .bind .peekWord fun _ => .pure _

theorem atAnyWord (words : List Text) : Looks (Reader.atAnyWord words) :=
  .bind .peekWord fun _ => .pure _

theorem atName : Looks Reader.atName := by
  refine .bind .peek fun kind => ?_
  split
  · exact .pure _
  · exact .pure _

theorem atStatementEnd : Looks Reader.atStatementEnd := by
  refine .bind .get fun s => ?_
  split
  · exact .pure _
  · exact .pure _

end Looks

/-! ### Readers and their nodes -/

section

variable {α : Type} (bound : Nat)

/-- A reader that reads something, with these nodes. -/
def Yields (nodes : α → List Node) (r : Reader α) : Prop :=
  ∀ first t, Leads bound first t r fun x => ⟨true, t.nodes ++ nodes x⟩

/-- A reader that may read something, with these nodes. -/
def Allows (nodes : α → List Node) (r : Reader α) : Prop :=
  ∀ first t, Leads bound first t r fun x => ⟨t.moved, t.nodes ++ nodes x⟩

def Gives (r : Reader Node) : Prop := Yields bound (fun n => [n]) r

/-- A reader that reads something or says that it does not. -/
def Accepts (r : Reader Bool) : Prop :=
  ∀ first t, Leads bound first t r fun taken => ⟨t.moved || taken, t.nodes⟩

end

section

variable {α β : Type} {bound first : Nat} {t : Trace} {r : Reader α} {f : α → Reader β}
  {nodes : α → List Node} {final : β → Trace}

theorem Yields.allows (yields : Yields bound nodes r) : Allows bound nodes r :=
  fun first t => (yields first t).weaken (by simp)

theorem Looks.leads (looks : Looks r) : Leads bound first t r fun _ => t := by
  intro s x s' holds read
  rw [looks s x s' read]
  exact holds

theorem Leads.look (looks : Looks r) (next : ∀ x, Leads bound first t (f x) final) :
    Leads bound first t (r >>= f) final :=
  looks.leads.bind next

theorem Accepts.allows {r : Reader Bool} (accepts : Accepts bound r) :
    Allows bound (fun _ => []) r :=
  fun first t => (accepts first t).weaken (by simp +contextual)

/-- One of two readers, by whether something is there to be read. -/
theorem Leads.choose {r : Reader Bool} {yes no : Reader β} (accepts : Accepts bound r)
    (taken : Leads bound first ⟨true, t.nodes⟩ yes final) (left : Leads bound first t no final) :
    Leads bound first t (r >>= fun x => if x = true then yes else no) final := by
  refine (accepts first t).bind fun x => ?_
  cases x with
  | true => exact taken.before (by simp)
  | false => exact left.before (by simp)

/-- A statement, if a keyword announces one. -/
theorem Leads.found {r : Reader (List Node)} (yields : Yields bound id r) :
    Leads bound first t (do return some (← r)) fun found =>
      found.elim t fun nodes => ⟨true, t.nodes ++ nodes⟩ :=
  .bind (yields _ _) fun _ => .pure (by simp)

end

/-! ### Tokens and nodes -/

section

variable {bound : Nat}

theorem next_eq_some {s s' : ReaderState} {token : Token}
    (read : Reader.next s = some (token, s')) : ∃ rest,
      Reader.skipSections s.tokens = token :: rest ∧ s' = ⟨rest, token.stop, token.lastLine⟩ := by
  obtain ⟨_, _, same, read⟩ := Reader.bind_eq_some_iff.mp read
  cases same
  cases tokens : Reader.skipSections s.tokens with
  | nil =>
    rw [tokens] at read
    cases read
  | cons t rest =>
    rw [tokens] at read
    cases read
    exact ⟨rest, rfl, rfl⟩

theorem yields_next : Yields bound (fun _ => []) Reader.next := by
  intro first t s token s' holds read
  obtain ⟨rest, tokens, rfl⟩ := next_eq_some read
  have ahead := holds.ahead
  have spread := holds.ready.skipSections
  have behind := ReaderState.lastLine_le_nextLine holds.ready
  rw [ReaderState.nextLine, tokens] at ahead behind
  rw [tokens] at spread
  obtain ⟨_, forward, ready⟩ := spread
  have later := ReaderState.lastLine_le_nextLine (s := ⟨rest, token.stop, token.lastLine⟩) ready
  refine ⟨ready, (ahead.trans forward).trans later, fun _ => ahead.trans forward, ?_⟩
  simpa using holds.laid.mono (Nat.le_refl _) (behind.trans forward)

theorem here_line (s : ReaderState) : ∃ start, Reader.here s = some (start, s) ∧
    start.line = s.nextLine := by
  refine ⟨_, rfl, ?_⟩
  rw [ReaderState.nextLine]
  cases Reader.skipSections s.tokens <;> rfl

variable {first : Nat} {t : Trace} {kind : NodeKind} {body : Reader (List Node)}

/-- A node from a place on, with what has been read since. -/
theorem Leads.nodeAt (start : Reader.Start)
    (inside : Leads bound start.line t body fun nodes => ⟨true, nodes⟩) :
    Leads bound start.line t (Reader.nodeAt start kind body) fun n => ⟨true, [n]⟩ := by
  intro s n s' holds read
  obtain ⟨nodes, between, done, more⟩ := Reader.bind_eq_some_iff.mp read
  obtain ⟨ready, ahead, moved, laid⟩ := inside s nodes between holds done
  cases more
  have forward := moved rfl
  exact ⟨ready, ahead, moved, laid_singleton.mpr
    ⟨Nat.le_refl _, Nat.le_refl _, nested_iff.mpr ⟨forward, laid⟩⟩⟩

theorem gives_here {f : Reader.Start → Reader Node}
    (inside : ∀ start, Leads bound start.line .start (f start) fun n => ⟨true, [n]⟩) :
    Gives bound (Reader.here >>= f) := by
  intro first t s n s' holds read
  obtain ⟨start, between, done, more⟩ := Reader.bind_eq_some_iff.mp read
  obtain ⟨place, found, line⟩ := here_line s
  obtain ⟨rfl, rfl⟩ : place = start ∧ s = between := by
    simpa [found] using done
  have fresh : Trace.start.Holds bound place.line s :=
    ⟨holds.ready, line.le, by simp, laid_nil⟩
  obtain ⟨ready, ahead, moved, laid⟩ := inside place s n s' fresh more
  have before := holds.ahead
  rw [← line] at before
  have behind := ReaderState.lastLine_le_nextLine holds.ready
  rw [← line] at behind
  have forward := moved rfl
  refine ⟨ready, before.trans ahead, fun _ => before.trans forward, ?_⟩
  exact holds.laid.append laid behind before (behind.trans forward)

theorem gives_node (inside : ∀ first, Leads bound first .start body fun nodes => ⟨true, nodes⟩) :
    Gives bound (Reader.node kind body) :=
  gives_here fun start => .nodeAt start (inside start.line)

theorem Leads.nodeFrom {moved : Bool} {front back : List Node} {n : Node}
    (inside : Leads bound n.span.firstLine ⟨true, n :: back⟩ body fun nodes => ⟨true, nodes⟩) :
    Leads bound first ⟨moved, front ++ n :: back⟩ (Reader.nodeFrom kind n body) fun made =>
      ⟨true, front ++ [made]⟩ := by
  intro s made s' holds read
  obtain ⟨late, early⟩ := holds.laid.from_node
  have above := (holds.laid.inside n (by simp)).1
  have begun : Trace.Holds bound n.span.firstLine ⟨true, n :: back⟩ s :=
    ⟨holds.ready, (late.forward (by simp)).trans (ReaderState.lastLine_le_nextLine holds.ready),
      fun _ => late.forward (by simp), late⟩
  have whole : Leads bound n.span.firstLine ⟨true, n :: back⟩ (Reader.nodeFrom kind n body)
      fun made => ⟨true, [made]⟩ := .nodeAt ⟨n.span.start, n.span.firstLine⟩ inside
  obtain ⟨ready, ahead, forward, laid⟩ := whole s made s' begun read
  have forward := forward rfl
  exact ⟨ready, above.trans ahead, fun _ => above.trans forward,
    early.append laid (Nat.le_refl _) above forward⟩

theorem gives_leaf : Gives bound (Reader.leaf kind) :=
  gives_node fun _ => .bind (yields_next _ _) fun _ => .pure (.refl _)

end

/-! ### Signs, words and names -/

section

variable {bound : Nat}

theorem accepts_of_look {looks : Reader Bool} (look : Looks looks) :
    Accepts bound (do if ← looks then let _ ← Reader.next; return true else return false) := by
  intro first t
  refine .look look fun there => .ite ?_ (.pure (by simp))
  exact .bind (yields_next _ _) fun _ => .pure (by simp)

theorem accepts_accept (sign : String) : Accepts bound (Reader.accept sign) :=
  accepts_of_look (.atSign sign)

theorem accepts_acceptWord (word : Text) : Accepts bound (Reader.acceptWord word) :=
  accepts_of_look (.atWord word)

theorem yields_of_accepts {r : Reader Bool} (accepts : Accepts bound r) :
    Yields bound (fun _ => []) (do if !(← r) then failure) := by
  intro first t
  refine (accepts first t).bind fun taken => ?_
  cases taken with
  | true => exact .pure (by simp)
  | false => exact .failure

theorem yields_expect (sign : String) : Yields bound (fun _ => []) (Reader.expect sign) :=
  yields_of_accepts (accepts_accept sign)

theorem yields_expectWord (word : Text) : Yields bound (fun _ => []) (Reader.expectWord word) :=
  yields_of_accepts (accepts_acceptWord word)

theorem gives_plainName : Gives bound Reader.plainName :=
  fun first t => .look .atName fun _ => .ite (gives_leaf first t) .failure

theorem gives_qualifiedName : Gives bound Reader.qualifiedName := by
  intro first t
  refine .look .peek fun kind => ?_
  split
  · exact gives_leaf first t
  · exact .failure

theorem gives_plainVariable : Gives bound Reader.plainVariable :=
  fun first t => .look .peek fun _ => .ite (gives_leaf first t) .failure

theorem allows_semicolon : Allows bound (fun _ => []) Reader.semicolon := by
  intro first t
  refine .look .get fun s => ?_
  split
  · exact .ite (.pure (by simp)) ((yields_expect ";").allows first t)
  · exact .failure

end

/-! ### Several items -/

section

variable {α : Type} {bound : Nat} {nodes : α → List Node} {item : Reader α} {stop : Reader Bool}

theorem allows_readUntil (looks : Looks stop) (each : Allows bound nodes item) :
    Allows bound (fun xs => xs.flatMap nodes) (Reader.readUntil stop item) := by
  intro first t
  refine .look .remaining fun rounds => ?_
  induction rounds generalizing t with
  | zero => exact .pure (by simp)
  | succ rounds ih =>
    refine .look looks fun _ => .ite (.pure (by simp)) ?_
    exact .bind (each first t) fun x => .bind (ih _) fun xs => .pure (by simp)

/-- No items, only if there is a reason to stop. -/
theorem readUntil_eq_nil {s s' : ReaderState} (looks : Looks stop)
    (read : Reader.readUntil stop item s = some ([], s')) : s' = s ∧ stop s = some (true, s) := by
  obtain ⟨rounds, _, counted, read⟩ := Reader.bind_eq_some_iff.mp read
  cases counted
  obtain ⟨stopped, between, asked, read⟩ := Reader.bind_eq_some_iff.mp read
  obtain rfl := looks _ _ _ asked
  cases stopped with
  | true =>
    cases read
    exact ⟨rfl, asked⟩
  | false =>
    obtain ⟨x, _, _, read⟩ := Reader.bind_eq_some_iff.mp read
    obtain ⟨xs, _, _, read⟩ := Reader.bind_eq_some_iff.mp read
    cases read

theorem leads_commaSeparated (each : Yields bound nodes item) (first : Nat) (t : Trace)
    (rounds : Nat) :
    Leads bound first t (Reader.commaSeparated item (rounds + 1)) fun xs =>
      ⟨true, t.nodes ++ xs.flatMap nodes⟩ := by
  induction rounds generalizing t with
  | zero =>
    refine .bind (each first t) fun x => .choose (accepts_accept ",") ?_ (.pure (by simp))
    exact .pure_bind (.pure (by simp))
  | succ rounds ih =>
    refine .bind (each first t) fun x => .choose (accepts_accept ",") ?_ (.pure (by simp))
    exact .bind (ih _) fun xs => .pure (by simp)

theorem yields_sepBy1 (each : Yields bound nodes item) :
    Yields bound (fun xs => xs.flatMap nodes) (Reader.sepBy1 item) := by
  intro first t s xs s' holds read
  exact leads_commaSeparated each first t s.tokens.length s xs s' holds read

theorem yields_listUpTo {close : String} (each : Allows bound nodes item) :
    Yields bound (fun xs => xs.flatMap nodes) (Reader.listUpTo close item) := by
  intro first t
  refine .look .remaining fun rounds => ?_
  induction rounds generalizing t with
  | zero => exact .failure
  | succ rounds ih =>
    refine .choose (accepts_accept close) (.pure (by simp)) ?_
    refine .bind (each first t) fun x => .choose (accepts_accept ",") ?_ ?_
    · exact .bind (ih _) fun xs => .pure (by simp)
    · exact .bind (yields_expect close _ _) fun _ => .pure (by simp)

end

end DocRepair.Php
