import RpcSchema.Options.Reading
import RpcSchema.Options.Registry
import RpcSchema.Proofs.Success

/-!
# Options called one after the other

A program is set up by calling its options, any of them in any order and as often as one likes, with
arguments that may or may not be readable. A call runs the action of its option on what the argument
gives, or it is refused before anything can change. Where no action changes anything and then fails,
all that a run of calls has done is found among the calls that succeeded.

## Main definitions

* `Invocation`, `Progress` — a call of an option, and the state after some calls with those of them
  that succeeded
* `Registry.Runs` — the action that a call runs
* `Registry.step`, `Registry.run` — one more call, and one call after the other
* `Action.Atomic`, `Registry.Atomic` — a failure leaves the state as it was
* `Called`, `LastRead` — whether an option was called, and the value that was read for it at last

## Main results

* `Registry.apply_of_runs`, `Registry.apply_of_not_runs` — a call does what its action does, or
  nothing
* `Registry.step_cases` — one more call, where failures leave the state as it was
* `Registry.run_induction` — what every call keeps, a run of calls keeps
* `LastRead.concat`, `LastRead.concat_of_ne` — what was read at last, after one more call
-/

namespace RpcSchema.Options

/-- A call of an option. -/
structure Invocation where
  name : String
  argument : Option String
  deriving Repr, DecidableEq

/-- The state of a program after some calls, and those of the calls that succeeded, in order. -/
structure Progress (σ : Type) where
  state : σ
  done : List Invocation
  deriving DecidableEq

variable {σ : Type}

/-- A failure leaves the state as it was. -/
def Action.Atomic (action : Action σ) : Prop :=
  ∀ state error, (action state).2 = .error error → (action state).1 = state

namespace Registry

/-- A call runs an action: that of a bare option, or that of an option with an argument, on the keys
and values of the argument. -/
inductive Runs (registry : Registry σ) : Invocation → Action σ → Prop
  | bare {name : String} {action : Action σ}
    (hlookup : registry.lookup name = some (.bare action)) : Runs registry ⟨name, none⟩ action
  | withArgument {name text : String} {form : ArgumentForm} {action : KeyValues → Action σ}
    {kvs : KeyValues} (hlookup : registry.lookup name = some (.withArgument form action))
    (hread : form.read text = .ok kvs) : Runs registry ⟨name, some text⟩ (action kvs)

/-- One more call. -/
def step (registry : Registry σ) (progress : Progress σ) (call : Invocation) : Progress σ :=
  match registry.apply call.name call.argument progress.state with
  | (state, .ok ()) => ⟨state, progress.done ++ [call]⟩
  | (state, .error _) => ⟨state, progress.done⟩

/-- One call after the other, from a state in which nothing was called yet. -/
def run (registry : Registry σ) (calls : List Invocation) (state : σ) : Progress σ :=
  calls.foldl registry.step ⟨state, []⟩

/-- Every call that fails leaves the state as it was. -/
def Atomic (registry : Registry σ) : Prop :=
  ∀ name argument, Action.Atomic (registry.apply name argument)

variable {registry : Registry σ} {call : Invocation} {action : Action σ}

/-! ### Calls -/

/-- A call leaves what its action leaves, and succeeds if its action does. Only the name of what an
action could not read may change. -/
theorem apply_of_runs (h : registry.Runs call action) (state : σ) :
    (registry.apply call.name call.argument state).1 = (action state).1 ∧
      ((registry.apply call.name call.argument state).2 = .ok () ↔ (action state).2 = .ok ()) := by
  cases h with
  | bare hlookup => simp [apply, hlookup]
  | withArgument hlookup hread => simp [apply, hlookup, hread, RpcError.atKey, mapError_eq_ok]

/-- A call that runs nothing is refused. -/
theorem apply_of_not_runs (h : ∀ action, ¬ registry.Runs call action) (state : σ) :
    ∃ error, registry.apply call.name call.argument state = (state, .error error) := by
  obtain ⟨name, argument⟩ := call
  dsimp only
  unfold apply
  split
  · exact ⟨_, rfl⟩
  · rename_i action hlookup
    exact absurd (.bare hlookup) (h action)
  · exact ⟨_, rfl⟩
  · exact ⟨_, rfl⟩
  · rename_i form action text hlookup
    split
    · exact ⟨_, rfl⟩
    · rename_i kvs hread
      exact absurd (.withArgument hlookup hread) (h (action kvs))

theorem atomic_of_runs (h : ∀ call action, registry.Runs call action → action.Atomic) :
    registry.Atomic := by
  intro name argument state error herror
  by_cases hruns : ∃ action, registry.Runs ⟨name, argument⟩ action
  · obtain ⟨action, hruns⟩ := hruns
    obtain ⟨hstate, hok⟩ := apply_of_runs hruns state
    rw [hstate]
    cases hresult : (action state).2 with
    | error inner => exact h _ action hruns state inner hresult
    | ok _ =>
      rw [hok.mpr hresult] at herror
      cases herror
  · obtain ⟨_, hrefused⟩ := apply_of_not_runs (not_exists.mp hruns) state
    rw [hrefused]

/-! ### Runs -/

/-- One more call succeeds and leaves what its action leaves, or it changes nothing. -/
theorem step_cases (hatomic : registry.Atomic) (progress : Progress σ) (call : Invocation) :
    (∃ action, registry.Runs call action ∧ (action progress.state).2 = .ok () ∧
      registry.step progress call = ⟨(action progress.state).1, progress.done ++ [call]⟩) ∨
    registry.step progress call = progress := by
  have hfailure := hatomic call.name call.argument progress.state
  unfold step
  split
  · rename_i state happly
    by_cases hruns : ∃ action, registry.Runs call action
    · obtain ⟨action, hruns⟩ := hruns
      obtain ⟨hstate, hok⟩ := apply_of_runs hruns progress.state
      rw [happly] at hstate hok
      exact .inl ⟨action, hruns, hok.mp rfl, by rw [← hstate]⟩
    · obtain ⟨_, hrefused⟩ := apply_of_not_runs (not_exists.mp hruns) progress.state
      rw [hrefused] at happly
      cases happly
  · rename_i state error happly
    rw [happly] at hfailure
    obtain rfl : state = progress.state := hfailure error rfl
    exact .inr rfl

/-- What holds at the start and is kept by every call holds after a run of calls. -/
theorem run_induction {P : Progress σ → Prop} {state : σ} (hstart : P ⟨state, []⟩)
    (hstep : ∀ progress call, P progress → P (registry.step progress call))
    (calls : List Invocation) : P (registry.run calls state) :=
  List.foldlRecOn calls registry.step hstart fun progress h call _ => hstep progress call h

end Registry

/-! ### What was read at last -/

/-- An option was called. -/
def Called (name : String) (calls : List Invocation) : Prop := ∃ call ∈ calls, call.name = name

theorem not_called_nil (name : String) : ¬ Called name [] :=
  fun ⟨_, hcall, _⟩ => absurd hcall List.not_mem_nil

theorem called_concat (name : String) (argument : Option String) (calls : List Invocation) :
    Called name (calls ++ [⟨name, argument⟩]) :=
  ⟨_, List.mem_concat_self, rfl⟩

theorem called_concat_of_ne {name other : String} (hne : other ≠ name) (argument : Option String)
    (calls : List Invocation) : Called name (calls ++ [⟨other, argument⟩]) ↔ Called name calls := by
  simp [Called, or_and_right, exists_or, hne]

/-- The value that is read from an argument. -/
def ArgumentForm.readAs (α : Type) [OptionValue α] (form : ArgumentForm) (text : String) :
    Except RpcError α :=
  form.read text >>= OptionValue.ofPairs

/-- What was read for an option at last, if it was called at all. -/
inductive LastRead (α : Type) [OptionValue α] (name : String) (form : ArgumentForm)
    (calls : List Invocation) : Option α → Prop
  | never (hnever : ¬ Called name calls) : LastRead α name form calls none
  | last {before after : List Invocation} {text : String} {value : α}
    (hcalls : calls = before ++ ⟨name, some text⟩ :: after) (hlast : ¬ Called name after)
    (hread : form.readAs α text = .ok value) : LastRead α name form calls (some value)

section

variable {α : Type} [OptionValue α] {name : String} {form : ArgumentForm} {calls : List Invocation}

theorem LastRead.concat {text : String} {value : α} (hread : form.readAs α text = .ok value) :
    LastRead α name form (calls ++ [⟨name, some text⟩]) (some value) :=
  .last rfl (not_called_nil name) hread

/-- A call of another option does not change what was read at last. -/
theorem LastRead.concat_of_ne {given : Option α} (h : LastRead α name form calls given)
    {other : String} (hne : other ≠ name) (argument : Option String) :
    LastRead α name form (calls ++ [⟨other, argument⟩]) given := by
  cases h with
  | never hnever => exact .never ((called_concat_of_ne hne argument calls).not.mpr hnever)
  | @last before after text value hcalls hlast hread =>
    have hmore : calls ++ [⟨other, argument⟩] =
        before ++ ⟨name, some text⟩ :: (after ++ [⟨other, argument⟩]) := by
      rw [hcalls, List.append_assoc, List.cons_append]
    exact .last hmore ((called_concat_of_ne hne argument after).not.mpr hlast) hread

end

end RpcSchema.Options
