import DocRepair.Proofs.Sequence
import DocRepair.Registry
import Mathlib.Data.List.Induction

/-!
Registries after any history of requests.

A request fails if it has no name or a name that is known, and then it changes nothing. The others
are registered one after the other. The fixer that handles a diagnostic is the first, by priority
and then by registration, of those that take part and claim it. All other fixers make no
difference, wherever they are registered.
-/

namespace DocRepair

structure Request where
  fixer : Fixer
  /-- The priority that takes the place of the fixer's own. -/
  priority : Option Int
  enabled : Bool

namespace Request

def name (q : Request) : Text := q.fixer.name

/-- The registration of a fixer after so many others. -/
def registration (q : Request) (order : Nat) : Registration :=
  ⟨q.fixer, q.priority.getD q.fixer.priority, q.enabled, order⟩

/-- Whether the fixer takes part and claims a diagnostic. -/
def takes (q : Request) (issue : Issue) : Bool := q.enabled && q.fixer.claims issue

/-- Whether there is a name, and no earlier request has it. -/
def isNew (q : Request) (earlier : List Request) : Bool :=
  !q.name.isEmpty && earlier.all fun other => other.name != q.name

theorem isNew_iff (q : Request) (earlier : List Request) :
    q.isNew earlier = true ↔ q.name ≠ [] ∧ ∀ other ∈ earlier, other.name ≠ q.name := by
  simp [isNew]

def admitted (requests : List Request) : List Request :=
  (requests.zipIdx.filter fun placed => placed.1.isNew (requests.take placed.2)).map (·.1)

theorem admitted_concat (requests : List Request) (q : Request) :
    admitted (requests ++ [q]) = admitted requests ++ if q.isNew requests then [q] else [] := by
  unfold admitted
  rw [List.zipIdx_append, List.filter_append, List.map_append]
  congr 1
  · -- An earlier request does not see the last one.
    congr 1
    apply List.filter_congr
    intro placed member
    have early : placed.2 < requests.length := by
      simpa using List.snd_lt_of_mem_zipIdx member
    rw [List.take_append_of_le_length (Nat.le_of_lt early)]
  · by_cases new : q.isNew requests = true
    · simp [new]
    · simp [new]

theorem exists_admitted {requests : List Request} {q : Request} (member : q ∈ requests)
    (named : q.name ≠ []) : ∃ first ∈ admitted requests, first.name = q.name := by
  induction requests using List.reverseRecOn generalizing q with
  | nil => cases member
  | append_singleton requests last ih =>
    rw [admitted_concat]
    have early : ∀ {other : Request}, other ∈ requests → other.name = q.name →
        ∃ first ∈ admitted requests ++ if last.isNew requests then [last] else [],
          first.name = q.name := by
      intro other inside same
      obtain ⟨first, known, alike⟩ := ih inside (same ▸ named)
      exact ⟨first, List.mem_append_left _ known, alike.trans same⟩
    rcases List.mem_append.mp member with inside | here
    · exact early inside rfl
    · obtain rfl := List.mem_singleton.mp here
      by_cases new : q.isNew requests = true
      · exact ⟨q, by simp [new], rfl⟩
      · rw [isNew_iff, not_and, not_forall] at new
        obtain ⟨other, clash⟩ := new named
        rw [Classical.not_imp, not_not] at clash
        exact early clash.1 clash.2

theorem mem_of_admitted {requests : List Request} {q : Request} (member : q ∈ admitted requests) :
    q ∈ requests ∧ q.name ≠ [] := by
  obtain ⟨⟨_, place⟩, kept, rfl⟩ := List.mem_map.mp member
  obtain ⟨placed, new⟩ := List.mem_filter.mp kept
  exact ⟨List.fst_mem_of_mem_zipIdx placed, ((isNew_iff ..).mp new).1⟩

theorem admitted_nodup (requests : List Request) : ((admitted requests).map name).Nodup := by
  induction requests using List.reverseRecOn with
  | nil => exact List.nodup_nil
  | append_singleton requests last ih =>
    rw [admitted_concat]
    by_cases new : last.isNew requests = true
    · rw [if_pos new, List.map_append, List.nodup_append]
      refine ⟨ih, by simp, ?_⟩
      intro known member other here
      obtain ⟨q, earlier, rfl⟩ := List.mem_map.mp member
      obtain rfl : other = last.name := by simpa using here
      exact ((isNew_iff ..).mp new).2 q (mem_of_admitted earlier).1
    · rw [if_neg new, List.append_nil]
      exact ih

end Request

/-! ### Requests -/

namespace Registration

/-- Whether the fixer takes part and claims a diagnostic. -/
def takes (r : Registration) (issue : Issue) : Bool := r.enabled && r.fixer.claims issue

/-- A registration is asked before another: its priority is higher, or it came first. -/
def Precedes (a b : Registration) : Prop :=
  b.priority < a.priority ∨ b.priority = a.priority ∧ a.order < b.order

theorem Precedes.asymm {a b : Registration} (first : a.Precedes b) : ¬b.Precedes a := by
  unfold Precedes at first ⊢
  omega

end Registration

namespace Registry

open Request

def answer (r : Registry) (q : Request) : Except RegistryError (Registration × Registry) :=
  r.register q.fixer q.priority q.enabled

/-- The registry after a request; one that fails gives no other registry. -/
def after (r : Registry) (q : Request) : Registry :=
  match r.answer q with
  | .ok (_, extended) => extended
  | .error _ => r

/-- The registry after several requests, from an empty one on. -/
def ofRequests (requests : List Request) : Registry :=
  requests.foldl after {}

/-- What a request comes to: it fails for one of two reasons and changes nothing, or the fixer is
registered after all others. -/
inductive Settles (r : Registry) (q : Request) : Prop
  | unnamed (empty : q.name = [])
    (fails : r.answer q = .error (.unnamed q.fixer.className)) (same : r.after q = r)
  | taken (existing : Registration) (known : existing ∈ r.registrations) (named : q.name ≠ [])
    (clash : existing.fixer.name = q.name)
    (fails : r.answer q = .error (.taken q.name existing.fixer.className)) (same : r.after q = r)
  | added (named : q.name ≠ []) (fresh : ∀ known ∈ r.registrations, known.fixer.name ≠ q.name)
    (works : r.answer q = .ok (q.registration r.registrations.length, r.after q))
    (last : (r.after q).registrations =
      r.registrations ++ [q.registration r.registrations.length])

theorem settles (r : Registry) (q : Request) : r.Settles q := by
  by_cases empty : q.name = []
  · have fails : r.answer q = .error (.unnamed q.fixer.className) :=
      if_pos (List.isEmpty_iff.mpr empty)
    exact .unnamed empty fails (by rw [after, fails])
  · have named : ¬q.fixer.name.isEmpty = true := mt List.isEmpty_iff.mp empty
    cases found : r.find? q.name with
    | some existing =>
      have fails : r.answer q = .error (.taken q.name existing.fixer.className) := by
        rw [answer, register, if_neg named]
        simp only [show r.find? q.fixer.name = some existing from found]
        rfl
      refine .taken existing (List.mem_of_find?_eq_some found) empty ?_ fails (by rw [after, fails])
      simpa using List.find?_some found
    | none =>
      have works : r.answer q = .ok (q.registration r.registrations.length,
          ⟨r.registrations ++ [q.registration r.registrations.length]⟩) := by
        rw [answer, register, if_neg named]
        simp only [show r.find? q.fixer.name = none from found]
        rfl
      have extended : r.after q = ⟨r.registrations ++ [q.registration r.registrations.length]⟩ := by
        rw [after, works]
      refine .added empty ?_ (by rw [works, extended]) (by rw [extended])
      intro known member clash
      exact List.find?_eq_none.mp found known member (by simpa using clash)

theorem ofRequests_concat (requests : List Request) (q : Request) :
    ofRequests (requests ++ [q]) = (ofRequests requests).after q := by
  simp [ofRequests]

/-- The registrations are those of the requests that succeed, numbered in their order. -/
theorem registrations_ofRequests (requests : List Request) :
    (ofRequests requests).registrations =
      (admitted requests).mapIdx fun order q => q.registration order := by
  induction requests using List.reverseRecOn with
  | nil => rfl
  | append_singleton requests last ih =>
    have known : ∀ name : Text, (∃ r ∈ (ofRequests requests).registrations, r.fixer.name = name) ↔
        ∃ q ∈ admitted requests, q.name = name := by
      intro name
      rw [ih]
      constructor
      · rintro ⟨r, member, rfl⟩
        obtain ⟨place, here, rfl⟩ := List.mem_mapIdx.mp member
        exact ⟨_, List.getElem_mem here, rfl⟩
      · rintro ⟨q, member, rfl⟩
        obtain ⟨place, here, rfl⟩ := List.mem_iff_getElem.mp member
        exact ⟨_, List.mem_mapIdx.mpr ⟨place, here, rfl⟩, rfl⟩
    rw [ofRequests_concat, admitted_concat]
    cases (ofRequests requests).settles last with
    | unnamed empty _ same =>
      have old : ¬last.isNew requests = true := fun new => ((isNew_iff ..).mp new).1 empty
      rw [same, ih, if_neg old, List.append_nil]
    | taken existing member _ clash _ same =>
      have old : ¬last.isNew requests = true := by
        intro new
        obtain ⟨q, earlier, alike⟩ := (known last.name).mp ⟨existing, member, clash⟩
        exact ((isNew_iff ..).mp new).2 q (mem_of_admitted earlier).1 alike
      rw [same, ih, if_neg old, List.append_nil]
    | added named fresh _ extended =>
      have new : last.isNew requests = true := by
        refine (isNew_iff ..).mpr ⟨named, ?_⟩
        intro other earlier alike
        obtain ⟨r, member, clash⟩ := (known last.name).mpr
          (alike ▸ exists_admitted earlier (alike ▸ named))
        exact fresh r member clash
      rw [extended, ih, if_pos new, List.mapIdx_append]
      simp

theorem registrations_eq_zipIdx (requests : List Request) :
    (ofRequests requests).registrations =
      (admitted requests).zipIdx.map fun placed => placed.1.registration placed.2 := by
  rw [registrations_ofRequests, List.mapIdx_eq_zipIdx_map]

theorem names_nodup (requests : List Request) :
    ((ofRequests requests).registrations.map (·.fixer.name)).Nodup := by
  have names : (ofRequests requests).registrations.map (·.fixer.name) =
      (admitted requests).map Request.name := by
    rw [registrations_eq_zipIdx, List.map_map]
    conv_rhs => rw [← List.zipIdx_map_fst 0 (admitted requests), List.map_map]
    rfl
  rw [names]
  exact admitted_nodup requests

theorem orders_ofRequests (requests : List Request) :
    (ofRequests requests).registrations.map (·.order) =
      List.range (ofRequests requests).registrations.length := by
  rw [registrations_eq_zipIdx, List.map_map, List.length_map, List.length_zipIdx,
    List.range_eq_range', ← List.zipIdx_map_snd]
  rfl

/-! ### The order of asking -/

theorem dispatchOrder_perm (r : Registry) : r.dispatchOrder.Perm r.registrations :=
  List.mergeSort_perm _ _

theorem dispatchOrder_filter (r : Registry) (p : Registration → Bool) :
    r.dispatchOrder.filter p =
      (r.registrations.filter p).mergeSort fun a b => b.priority ≤ a.priority :=
  filter_mergeSort_descending Registration.priority p r.registrations

/-- Registrations that are numbered in their order are asked by priority, and those of one priority
by their numbers. -/
theorem dispatchOrder_sorted {r : Registry}
    (numbered : r.registrations.Pairwise fun a b => a.order < b.order) :
    r.dispatchOrder.Pairwise Registration.Precedes := by
  rw [List.pairwise_iff_forall_sublist]
  intro a b inside
  have sorted := mergeSort_descending Registration.priority r.registrations
  have descending : b.priority ≤ a.priority :=
    List.pairwise_iff_forall_sublist.mp sorted inside
  rcases Int.lt_or_eq_of_le descending with lower | level
  · exact .inl lower
  · -- Those of one priority stand as they were registered.
    have same : r.dispatchOrder.filter (fun c => c.priority = a.priority) =
        r.registrations.filter fun c => c.priority = a.priority :=
      filter_mergeSort_level Registration.priority a.priority r.registrations
    have both := inside.filter fun c => decide (c.priority = a.priority)
    rw [same, List.filter_eq_self.mpr (by simp [level])] at both
    exact .inr ⟨level, List.pairwise_iff_forall_sublist.mp numbered
      (both.trans List.filter_sublist)⟩

theorem numbered_ofRequests (requests : List Request) :
    (ofRequests requests).registrations.Pairwise fun a b => a.order < b.order := by
  have ascending := List.pairwise_lt_range (n := (ofRequests requests).registrations.length)
  rw [← orders_ofRequests] at ascending
  exact List.pairwise_map.mp ascending

/-! ### The fixer that is picked -/

/-- The fixer comes before all others that take a diagnostic. -/
structure Picks (r : Registry) (issue : Issue) (best : Registration) : Prop where
  member : best ∈ r.registrations
  takes : best.takes issue = true
  first : ∀ other ∈ r.registrations, other.takes issue = true → other ≠ best → best.Precedes other

theorem claimant?_eq (r : Registry) (issue : Issue) :
    r.claimant? issue = (r.dispatchOrder.find? fun c => c.takes issue).map (·.fixer) :=
  rfl

variable {r : Registry} {issue : Issue}

theorem picks_of_find? (sorted : r.dispatchOrder.Pairwise Registration.Precedes)
    {best : Registration} (found : r.dispatchOrder.find? (fun c => c.takes issue) = some best) :
    r.Picks issue best := by
  obtain ⟨takes, before, rest, split, unclaimed⟩ := List.find?_eq_some_iff_append.mp found
  refine ⟨r.dispatchOrder_perm.mem_iff.mp (List.mem_of_find?_eq_some found), takes, ?_⟩
  intro other member claims different
  have placed := r.dispatchOrder_perm.mem_iff.mpr member
  rw [split, List.mem_append, List.mem_cons] at placed
  rw [split, List.pairwise_append, List.pairwise_cons] at sorted
  rcases placed with early | rfl | late
  · exact absurd claims (by simpa using unclaimed other early)
  · exact absurd rfl different
  · exact sorted.2.1.1 other late

/-- The fixer of a diagnostic is the one that comes first among those that take it. -/
theorem claimant?_eq_some_iff (sorted : r.dispatchOrder.Pairwise Registration.Precedes)
    (fixer : Fixer) :
    r.claimant? issue = some fixer ↔ ∃ best, r.Picks issue best ∧ best.fixer = fixer := by
  rw [claimant?_eq, Option.map_eq_some_iff]
  constructor
  · rintro ⟨best, found, rfl⟩
    exact ⟨best, picks_of_find? sorted found, rfl⟩
  · rintro ⟨best, picked, rfl⟩
    have listed := r.dispatchOrder_perm.mem_iff.mpr picked.member
    have some : (r.dispatchOrder.find? fun c => c.takes issue).isSome = true :=
      List.find?_isSome.mpr ⟨best, listed, picked.takes⟩
    obtain ⟨other, found⟩ := Option.isSome_iff_exists.mp some
    have rival := picks_of_find? sorted found
    by_cases same : other = best
    · exact ⟨other, found, by rw [same]⟩
    · have ahead := picked.first other rival.member rival.takes same
      have behind := rival.first best picked.member picked.takes (Ne.symm same)
      exact absurd behind ahead.asymm

theorem claimant?_eq_none_iff :
    r.claimant? issue = none ↔ ∀ c ∈ r.registrations, c.takes issue = false := by
  rw [claimant?_eq, Option.map_eq_none_iff, List.find?_eq_none]
  simp [r.dispatchOrder_perm.mem_iff]

/-- What a fixer gives is the result, be it a failure; what it throws becomes a failure. -/
theorem dispatch?_of_claimant? {fixer : Fixer} (claimed : r.claimant? issue = some fixer)
    (content : Text) :
    (∀ result, fixer.fix issue content = .ok result →
      r.dispatch? issue content = some ⟨result, none⟩) ∧
    ∀ thrown, fixer.fix issue content = .error thrown →
      ∃ log, r.dispatch? issue content = some ⟨.failure issue content ("Fixer " ++ fixer.name ++
        " raised " ++ thrown.kind ++ ": " ++ thrown.text), some log⟩ := by
  rw [dispatch?, claimed, Option.map_some]
  constructor
  · intro result fixed
    rw [settle, fixed]
  · intro thrown fails
    rw [settle, fails]
    exact ⟨_, rfl⟩

/-! ### Fixers that make no difference -/

/-- The fixer depends only on the requests that succeed and take the diagnostic. -/
theorem claimant?_ofRequests (requests : List Request) (issue : Issue) :
    (ofRequests requests).claimant? issue =
      ((((admitted requests).filter fun q => q.takes issue).map
        fun q => (q.fixer, q.priority.getD q.fixer.priority)).mergeSort
          fun a b => b.2 ≤ a.2).head?.map (·.1) := by
  have taking : (((ofRequests requests).registrations.filter fun c => c.takes issue).map
      fun c => (c.fixer, c.priority)) =
      ((admitted requests).filter fun q => q.takes issue).map
        fun q => (q.fixer, q.priority.getD q.fixer.priority) := by
    rw [registrations_eq_zipIdx, List.filter_map, List.map_map]
    conv_rhs => rw [← List.zipIdx_map_fst 0 (admitted requests), List.filter_map, List.map_map]
    rfl
  rw [claimant?_eq, ← List.head?_filter, dispatchOrder_filter, ← taking,
    ← List.map_mergeSort (r := fun a b : Registration => b.priority ≤ a.priority) (by simp),
    List.head?_map, Option.map_map]
  rfl

/-- Requests among which others are inserted, whose names are none of theirs and whose fixers do not
take a diagnostic. -/
structure Interspersed (issue : Issue) (requests longer : List Request) (inserted : Nat → Bool) :
    Prop where
  others : keptAt (fun place => !inserted place) longer = requests
  fresh : ∀ placed ∈ longer.zipIdx, inserted placed.2 = true →
    ∀ other ∈ requests, other.name ≠ placed.1.name
  idle : ∀ placed ∈ longer.zipIdx, inserted placed.2 = true → placed.1.takes issue = false

theorem admitted_interspersed {requests longer : List Request} {inserted : Nat → Bool}
    (interspersed : Interspersed issue requests longer inserted) :
    ((admitted longer).filter fun q => q.takes issue) =
      (admitted requests).filter fun q => q.takes issue := by
  induction longer using List.reverseRecOn generalizing requests with
  | nil =>
    obtain rfl := interspersed.others
    rfl
  | append_singleton longer last ih =>
    obtain ⟨rfl, fresh, idle⟩ := interspersed
    have early : ∀ placed ∈ longer.zipIdx, placed ∈ (longer ++ [last]).zipIdx := by
      intro placed member
      rw [List.zipIdx_append]
      exact List.mem_append_left _ member
    have late : (last, longer.length) ∈ (longer ++ [last]).zipIdx := by
      rw [List.zipIdx_append]
      simp
    have before := ih ⟨rfl, fun placed member out other kept =>
        fresh placed (early placed member) out other
          (by rw [keptAt_concat]; exact List.mem_append_left _ kept),
      fun placed member => idle placed (early placed member)⟩
    rw [admitted_concat, List.filter_append, before]
    by_cases out : inserted longer.length = true
    · -- An inserted fixer is registered or not, but does not take the diagnostic.
      have refused : last.takes issue = false := idle _ late out
      have rest : keptAt (fun place => !inserted place) (longer ++ [last]) =
          keptAt (fun place => !inserted place) longer := by
        simp [keptAt_concat, out]
      rw [rest]
      by_cases new : last.isNew longer = true
      · simp [new, refused]
      · simp [new]
    · -- No inserted name stands in the way of another request.
      have rest : keptAt (fun place => !inserted place) (longer ++ [last]) =
          keptAt (fun place => !inserted place) longer ++ [last] := by
        simp [keptAt_concat, out]
      have alike : last.isNew longer =
          last.isNew (keptAt (fun place => !inserted place) longer) := by
        rw [Bool.eq_iff_iff, isNew_iff, isNew_iff]
        refine and_congr_right fun _ => ⟨?_, ?_⟩
        · intro absent other kept
          exact absent other ((keptAt_sublist _ longer).subset kept)
        · intro absent other member
          rcases mem_keptAt_or member with kept | ⟨place, placed, gone⟩
          · exact absent other kept
          · exact (fresh _ (early _ placed) (by simpa using gone) last (by simp [rest])).symm
      rw [rest, admitted_concat, List.filter_append, alike]

end Registry

open Registry Request in
/-- After any requests the registry holds the fixers of those that succeed, and picks the one that
comes first among those that take a diagnostic; other fixers make no difference to that. -/
theorem registry_history (requests : List Request) (issue : Issue) (content : Text) :
    (∀ before q rest, requests = before ++ q :: rest → (ofRequests before).Settles q ∧
        ofRequests (before ++ [q]) = (ofRequests before).after q) ∧
      (ofRequests requests).registrations =
        (admitted requests).mapIdx (fun order q => q.registration order) ∧
      ((ofRequests requests).registrations.map (·.fixer.name)).Nodup ∧
      (ofRequests requests).registrations.map (·.order) =
        List.range (ofRequests requests).registrations.length ∧
      (ofRequests requests).dispatchOrder.Perm (ofRequests requests).registrations ∧
      (ofRequests requests).dispatchOrder.Pairwise Registration.Precedes ∧
      (∀ fixer, (ofRequests requests).claimant? issue = some fixer ↔
        ∃ best, (ofRequests requests).Picks issue best ∧ best.fixer = fixer) ∧
      ((ofRequests requests).claimant? issue = none ↔
        ∀ c ∈ (ofRequests requests).registrations, c.takes issue = false) ∧
      ((ofRequests requests).claimant? issue = none →
        (ofRequests requests).dispatch? issue content = none) ∧
      (∀ fixer, (ofRequests requests).claimant? issue = some fixer →
        (∀ result, fixer.fix issue content = .ok result →
          (ofRequests requests).dispatch? issue content = some ⟨result, none⟩) ∧
        ∀ thrown, fixer.fix issue content = .error thrown →
          ∃ log, (ofRequests requests).dispatch? issue content = some ⟨.failure issue content
            ("Fixer " ++ fixer.name ++ " raised " ++ thrown.kind ++ ": " ++ thrown.text),
              some log⟩) ∧
      ∀ longer inserted, Interspersed issue requests longer inserted →
        (ofRequests longer).claimant? issue = (ofRequests requests).claimant? issue := by
  have sorted := dispatchOrder_sorted (numbered_ofRequests requests)
  refine ⟨?_, registrations_ofRequests requests, names_nodup requests, orders_ofRequests requests,
    dispatchOrder_perm _, sorted, claimant?_eq_some_iff sorted, claimant?_eq_none_iff, ?_,
    fun fixer claimed => dispatch?_of_claimant? claimed content, ?_⟩
  · intro before q rest _
    exact ⟨(ofRequests before).settles q, ofRequests_concat before q⟩
  · intro unclaimed
    rw [dispatch?, unclaimed, Option.map_none]
  · intro longer inserted interspersed
    rw [claimant?_ofRequests, claimant?_ofRequests, admitted_interspersed interspersed]

/-- A request for a fixer of one message, which finds nothing to change. -/
def Request.ofMessage (name message : Text) (priority : Option Int) (enabled : Bool) : Request :=
  ⟨⟨name, name, [], 0, fun issue => issue.message == message,
    fun issue content => .ok (.failure issue content "Nothing to change")⟩, priority, enabled⟩

open Registry Request in
/-- Of two fixers the later one has the higher priority; a name is asked for twice, and among the
requests come a fixer of another message and one that takes no part. -/
theorem registry_history_sample :
    let issue : Issue := ⟨"a.php", 1, "unused", none, none⟩
    let low := ofMessage "low" "unused" none true
    let high := ofMessage "high" "unused" (some 7) true
    let other := ofMessage "other" "untyped" (some 9) true
    let idle := ofMessage "idle" "unused" (some 9) false
    (ofRequests [low]).after low = ofRequests [low] ∧
      (ofRequests [low, low, high]).claimant? issue = some high.fixer ∧
      (ofRequests [low, low, high]).dispatch? issue "text" =
        some ⟨.failure issue "text" "Nothing to change", none⟩ ∧
      (ofRequests [other, low, idle, low, high]).claimant? issue = some high.fixer := by
  intro issue low high other idle
  obtain ⟨steps, -, -, -, -, -, -, -, -, handled, others⟩ :=
    registry_history [low, low, high] issue "text"
  have claimed : (ofRequests [low, low, high]).claimant? issue = some high.fixer := by
    cbv
  have interspersed : Interspersed issue [low, low, high] [other, low, idle, low, high]
      fun place => place == 0 || place == 2 := by
    refine ⟨rfl, ?_, ?_⟩
    · decide
    · decide
  refine ⟨?_, claimed, (handled _ claimed).1 _ rfl, (others _ _ interspersed).trans claimed⟩
  exact (steps [low] low [high] rfl).2.symm.trans rfl

end DocRepair
