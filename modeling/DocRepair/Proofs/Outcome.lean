/-!
Runs that may fail.

A run of two steps succeeds exactly if both do, and where it fails, one of them does.
-/

namespace DocRepair.Outcome

variable {ε α β : Type} {x : Except ε α} {next : α → Except ε β}

theorem bind_eq_ok_iff {result : β} :
    x >>= next = .ok result ↔ ∃ a, x = .ok a ∧ next a = .ok result := by
  cases x with
  | error fault => simp [bind, Except.bind]
  | ok a => simp [bind, Except.bind]

@[simp] theorem mapError_ok {δ : Type} (other : ε → δ) (a : α) :
    (Except.ok a).mapError other = .ok a := rfl

@[simp] theorem mapError_error {δ : Type} (other : ε → δ) (fault : ε) :
    (Except.error fault : Except ε α).mapError other = .error (other fault) := rfl

theorem mapError_eq_ok_iff {δ : Type} {other : ε → δ} {a : α} :
    x.mapError other = .ok a ↔ x = .ok a := by
  cases x <;> simp

/-- A run of two steps gives some result exactly if both do. -/
theorem succeeds_bind_iff :
    (∃ result, x >>= next = .ok result) ↔ ∃ a, x = .ok a ∧ ∃ result, next a = .ok result := by
  simp only [bind_eq_ok_iff]
  exact ⟨fun ⟨result, a, passed, last⟩ => ⟨a, passed, result, last⟩,
    fun ⟨a, passed, result, last⟩ => ⟨result, a, passed, last⟩⟩

theorem succeeds_pure_iff (a : α) : (∃ result, (pure a : Except ε α) = .ok result) ↔ True :=
  iff_true_intro ⟨a, rfl⟩

theorem succeeds_unless_iff {refused : Prop} [Decidable refused] {fault : ε}
    {after : PUnit → Except ε β} {run : Except ε β} :
    (∃ result, (if refused then throw fault >>= after else run) = .ok result) ↔
      ¬refused ∧ ∃ result, run = .ok result := by
  by_cases holds : refused
  · simp [holds, throw, throwThe, MonadExceptOf.throw, bind, Except.bind]
  · simp [holds]

theorem bind_eq_error_iff {fault : ε} :
    x >>= next = .error fault ↔ x = .error fault ∨ ∃ a, x = .ok a ∧ next a = .error fault := by
  cases x with
  | error other => simp [bind, Except.bind]
  | ok a => simp [bind, Except.bind]

/-- Where a run fails, its fault is of a kind. -/
def FailsAs (kind : ε → Prop) (run : Except ε α) : Prop :=
  ∀ fault, run = .error fault → kind fault

theorem failsAs_ok (kind : ε → Prop) (a : α) : FailsAs kind (.ok a : Except ε α) :=
  fun _ failed => nomatch failed

theorem failsAs_error {kind : ε → Prop} {fault : ε} (known : kind fault) :
    FailsAs kind (.error fault : Except ε α) := by
  rintro _ ⟨⟩
  exact known

theorem FailsAs.bind {kind : ε → Prop} (first : FailsAs kind x)
    (later : ∀ a, x = .ok a → FailsAs kind (next a)) : FailsAs kind (x >>= next) := by
  intro fault failed
  rcases bind_eq_error_iff.mp failed with here | ⟨a, passed, failed⟩
  · exact first fault here
  · exact later a passed fault failed

end DocRepair.Outcome
