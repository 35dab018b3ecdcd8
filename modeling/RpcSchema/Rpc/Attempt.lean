import RpcSchema.Rpc.Error

/-!
# Operations that may fail

An operation on a state returns a value or fails with an error, and leaves a state either way. What
it changed before it failed stays changed: nothing puts the old state back. So it has to be shown of
an operation that its failures leave no trace, by looking at what it does before each of them.

## Main definitions

* `Attempt`, `Attempt.on` — operations on states of one type; the state that one leaves, and what
  came of it
* `Attempt.Keeps` — operations that leave a part of the state alone
* `Attempt.Atomic` — operations that fail without a trace

## Main results

* `Attempt.on_bind` — one operation after another
* `Attempt.Keeps.bind_atomic` — an operation without a trace after one that changes nothing
-/

namespace RpcSchema

/-- Operations on states of the type `σ`, which may fail. -/
abbrev Attempt (σ : Type) := ExceptT RpcError (StateM σ)

namespace Attempt

variable {σ α β τ : Type}

/-- The state that an operation leaves, and what came of it. -/
def on (x : Attempt σ α) (s : σ) : σ × Except RpcError α := (x.run.run s).swap

/-! ### What comes of an operation -/

section

variable (s : σ)

@[simp] theorem on_pure (v : α) : (pure v : Attempt σ α).on s = (s, .ok v) := rfl

@[simp] theorem on_throw (error : RpcError) :
    (throw error : Attempt σ α).on s = (s, .error error) := rfl

@[simp] theorem on_get : (get : Attempt σ σ).on s = (s, .ok s) := rfl

@[simp] theorem on_modify (change : σ → σ) :
    (modify change : Attempt σ Unit).on s = (change s, .ok ()) := rfl

/-- What is computed without the state leaves the state alone. -/
@[simp] theorem on_lift (result : Except RpcError α) :
    (liftM result : Attempt σ α).on s = (s, result) := rfl

end

variable {s after : σ} {x : Attempt σ α} {f : α → Attempt σ β}

/-- The second operation goes on from where the first one ended, unless that failed. -/
theorem on_bind (x : Attempt σ α) (f : α → Attempt σ β) (s : σ) : (x >>= f).on s =
    match x.on s with
    | (after, .ok v) => (f v).on after
    | (after, .error error) => (after, .error error) := by
  rw [on, on]
  show ((ExceptT.bindCont f (x.run.run s).1).run (x.run.run s).2).swap = _
  cases x.run.run s with
  | mk result after => cases result <;> rfl

theorem on_bind_of_ok {v : α} (h : x.on s = (after, .ok v)) (f : α → Attempt σ β) :
    (x >>= f).on s = (f v).on after := by
  rw [on_bind, h]

theorem on_bind_of_error {error : RpcError} (h : x.on s = (after, .error error))
    (f : α → Attempt σ β) : (x >>= f).on s = (after, .error error) := by
  rw [on_bind, h]

/-- Either the first operation fails and that is all, or the second one goes on. -/
theorem on_bind_cases (x : Attempt σ α) (f : α → Attempt σ β) (s : σ) :
    (∃ after error, x.on s = (after, .error error) ∧ (x >>= f).on s = (after, .error error)) ∨
      ∃ after v, x.on s = (after, .ok v) ∧ (x >>= f).on s = (f v).on after := by
  cases h : x.on s with
  | mk after result =>
    cases result with
    | error error => exact .inl ⟨after, error, rfl, on_bind_of_error h f⟩
    | ok v => exact .inr ⟨after, v, rfl, on_bind_of_ok h f⟩

theorem lift_bind_of_ok {result : Except RpcError α} {v : α} (h : result = .ok v)
    (f : α → Attempt σ β) : (liftM result >>= f : Attempt σ β) = f v := by
  rw [h]
  rfl

theorem on_lift_bind_of_error {result : Except RpcError α} {error : RpcError}
    (h : result = .error error) (f : α → Attempt σ β) (s : σ) :
    (liftM result >>= f : Attempt σ β).on s = (s, .error error) := by
  rw [h]
  rfl

/-- What comes of an operation that starts with a computation. -/
theorem on_lift_bind_snd (result : Except RpcError α) (f : α → Attempt σ β) (s : σ) :
    ((liftM result >>= f : Attempt σ β).on s).2 = result >>= fun v => ((f v).on s).2 := by
  cases result <;> rfl

theorem exists_lift_of_ok {result : Except RpcError α} {w : β}
    (h : ((liftM result >>= f : Attempt σ β).on s).2 = .ok w) :
    ∃ v, result = .ok v ∧ (liftM result >>= f : Attempt σ β) = f v := by
  cases result with
  | error error => cases h
  | ok v => exact ⟨v, rfl, rfl⟩

/-! ### What an operation leaves alone -/

/-- An operation that leaves a part of the state alone, whatever comes of it. -/
def Keeps (part : σ → τ) (x : Attempt σ α) : Prop := ∀ s, part (x.on s).1 = part s

/-- An operation that leaves the state as it was if it fails. -/
def Atomic (x : Attempt σ α) : Prop := ∀ s error, (x.on s).2 = .error error → (x.on s).1 = s

section

variable {part : σ → τ}

theorem keeps_pure (v : α) : (pure v : Attempt σ α).Keeps part := fun _ => rfl

theorem keeps_get : (get : Attempt σ σ).Keeps part := fun _ => rfl

theorem keeps_lift (result : Except RpcError α) : (liftM result : Attempt σ α).Keeps part :=
  fun _ => rfl

theorem Keeps.bind (hx : x.Keeps part) (hf : ∀ v, (f v).Keeps part) : (x >>= f).Keeps part := by
  intro s
  have hfirst := hx s
  obtain ⟨after, error, hxs, hbind⟩ | ⟨after, v, hxs, hbind⟩ := on_bind_cases x f s <;>
    rw [hxs] at hfirst <;> rw [hbind]
  · exact hfirst
  · exact (hf v after).trans hfirst

end

theorem Keeps.atomic (h : x.Keeps id) : x.Atomic := fun s _ _ => h s

/-- An operation leaves no trace if it succeeds wherever it changes something. -/
theorem atomic_of_forall (h : ∀ s, (x.on s).1 = s ∨ ∃ v, (x.on s).2 = .ok v) : x.Atomic := by
  intro s error herror
  obtain hsame | ⟨v, hv⟩ := h s
  · exact hsame
  · cases hv.symm.trans herror

theorem atomic_of_ok (h : ∀ s, ∃ v, (x.on s).2 = .ok v) : x.Atomic :=
  atomic_of_forall fun s => .inr (h s)

/-- Where nothing is changed before an operation, a failure leaves what the operation leaves. -/
theorem Keeps.bind_atomic (hx : x.Keeps id) (hf : ∀ v, (f v).Atomic) : (x >>= f).Atomic := by
  intro s error herror
  have hfirst := hx s
  obtain ⟨after, e, hxs, hbind⟩ | ⟨after, v, hxs, hbind⟩ := on_bind_cases x f s <;>
    rw [hxs] at hfirst <;> obtain rfl : after = s := hfirst <;> rw [hbind] at herror ⊢
  exact hf v after error herror

/-- Nothing that comes after an operation fails once the operation has returned. -/
theorem Atomic.bind_of_ok (hx : x.Atomic) (hf : ∀ v s, ∃ w, ((f v).on s).2 = .ok w) :
    (x >>= f).Atomic := by
  intro s error herror
  obtain ⟨after, e, hxs, hbind⟩ | ⟨after, v, hxs, hbind⟩ := on_bind_cases x f s <;>
    rw [hbind] at herror ⊢
  · have hfirst := hx s e (by rw [hxs])
    rwa [hxs] at hfirst
  · obtain ⟨w, hw⟩ := hf v after
    cases hw.symm.trans herror

end Attempt

end RpcSchema
