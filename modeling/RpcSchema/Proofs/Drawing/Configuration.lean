import RpcSchema.Drawing.Settings
import RpcSchema.Proofs.Options.Lists
import RpcSchema.Proofs.Options.Runs

/-!
# What the settings are after some calls

The settings of a drawing program tell which of its options were called with success, and with which
values: a switch is on if its option ever succeeded, and a value is the one that was read at last.
Calls that failed have left nothing behind, wherever in the argument the failure was.

The options are gone through once, to see that whether a call sets something does not depend on the
settings it finds. What it sets belongs to one option, so the others are reflected as before.

## Main definitions

* `Sets` — what a call sets, if it succeeds
* `Decided` — an action for which the settings make no difference
* `Reflects` — settings that say what the calls have read

## Main results

* `decided_of_runs` — an action sets what its call gives, or fails whatever the settings are
* `Reflects.step` — one more call
* `atomic_and_reflects_run` — all calls that fail are without a trace, and the settings reflect the
  others
-/

namespace RpcSchema.Drawing

open RpcSchema.Options

/-- What a call sets, if it succeeds. -/
inductive Sets : Invocation → (Settings → Settings) → Prop
  | verbose : Sets ⟨"verbose", none⟩ fun settings => { settings with verbose := true }
  | name {text : String} {name : String}
    (hread : ArgumentForm.scalar.readAs String text = .ok name) :
    Sets ⟨"name", some text⟩ fun settings => { settings with name := some name }
  | origin {text : String} {origin : Point}
    (hread : (ArgumentForm.pairs (some "x")).readAs Point text = .ok origin) :
    Sets ⟨"origin", some text⟩ fun settings => { settings with origin := some origin }
  | palette {text : String} {palette : List Color}
    (hread : (ArgumentForm.pairs none).readAs (List Color) text = .ok palette) :
    Sets ⟨"palette", some text⟩ fun settings => { settings with palette }

/-- Settings that say what the calls which succeeded have read. -/
structure Reflects (progress : Progress Settings) : Prop where
  verbose : progress.state.verbose = true ↔ Called "verbose" progress.done
  name : LastRead String "name" .scalar progress.done progress.state.name
  origin : LastRead Point "origin" (.pairs (some "x")) progress.done progress.state.origin
  /-- if no palette was read there are no colors -/
  palette : ∃ given, LastRead (List Color) "palette" (.pairs none) progress.done given ∧
    progress.state.palette = given.getD []

/-! ### Calls -/

variable {call : Invocation} {action : Action Settings}

/-- Whatever the settings are, an action sets what the call gives, or it fails. -/
def Decided (call : Invocation) (action : Action Settings) : Prop :=
  (∃ change, Sets call change ∧ action = fun settings => (change settings, .ok ())) ∨
    ∃ error, action = fun settings => (settings, .error error)

/-- An option reads its value before it looks at the settings. -/
theorem decided_setting {α : Type} [OptionValue α] {form : ArgumentForm} {text : String}
    {kvs : KeyValues} (hread : form.read text = .ok kvs) {change : α → Settings → Settings}
    (hsets : ∀ {value}, form.readAs α text = .ok value → Sets call (change value)) :
    Decided call (setting change kvs) := by
  have hvalue : form.readAs α text = OptionValue.ofPairs kvs := bind_of_eq_ok hread _
  rw [hvalue] at hsets
  unfold setting
  cases hresult : (OptionValue.ofPairs kvs : Except RpcError α) with
  | ok value => exact .inl ⟨change value, hsets hresult, rfl⟩
  | error error => exact .inr ⟨error, rfl⟩

theorem decided_of_runs (h : options.Runs call action) : Decided call action := by
  cases h with
  | bare hlookup =>
    have hmem := KeyValues.mem_of_lookup hlookup
    simp only [options, List.mem_cons, Prod.mk.injEq, reduceCtorEq, and_false,
      Entry.bare.injEq, List.not_mem_nil, or_false] at hmem
    obtain ⟨rfl, rfl⟩ := hmem
    exact .inl ⟨_, .verbose, rfl⟩
  | @withArgument name text form action kvs hlookup hread =>
    have hmem := KeyValues.mem_of_lookup hlookup
    simp only [options, List.mem_cons, Prod.mk.injEq, reduceCtorEq, and_false, false_or,
      Entry.withArgument.injEq, List.not_mem_nil, or_false] at hmem
    obtain ⟨rfl, rfl, rfl⟩ | ⟨rfl, rfl, rfl⟩ | ⟨rfl, rfl, rfl⟩ := hmem
    case inl => exact decided_setting hread .name
    case inr.inl => exact decided_setting hread .origin
    case inr.inr => exact decided_setting hread .palette

theorem atomic_options : options.Atomic := by
  refine Registry.atomic_of_runs fun call action hruns => ?_
  obtain ⟨change, -, rfl⟩ | ⟨error, rfl⟩ := decided_of_runs hruns
  · exact fun _ _ herror => nomatch herror
  · exact fun _ _ _ => rfl

/-! ### Reflection -/

theorem reflects_default : Reflects ⟨.default, []⟩ where
  verbose := iff_of_false nofun (not_called_nil "verbose")
  name := .never (not_called_nil "name")
  origin := .never (not_called_nil "origin")
  palette := ⟨none, .never (not_called_nil "palette"), rfl⟩

/-- What a call sets is what it has read, and what the others have set stays. -/
theorem Reflects.sets {progress : Progress Settings} (h : Reflects progress)
    {change : Settings → Settings} (hsets : Sets call change) :
    Reflects ⟨change progress.state, progress.done ++ [call]⟩ := by
  obtain ⟨given, hgiven, hpalette⟩ := h.palette
  have hverbose {other : String} (hne : other ≠ "verbose") (argument : Option String) :
      progress.state.verbose = true ↔ Called "verbose" (progress.done ++ [⟨other, argument⟩]) :=
    h.verbose.trans (called_concat_of_ne hne argument progress.done).symm
  cases hsets with
  | verbose =>
    exact ⟨iff_of_true rfl (called_concat _ _ _), h.name.concat_of_ne (by decide) _,
      h.origin.concat_of_ne (by decide) _, given, hgiven.concat_of_ne (by decide) _, hpalette⟩
  | name hread =>
    exact ⟨hverbose (by decide) _, .concat hread, h.origin.concat_of_ne (by decide) _,
      given, hgiven.concat_of_ne (by decide) _, hpalette⟩
  | origin hread =>
    exact ⟨hverbose (by decide) _, h.name.concat_of_ne (by decide) _, .concat hread,
      given, hgiven.concat_of_ne (by decide) _, hpalette⟩
  | palette hread =>
    exact ⟨hverbose (by decide) _, h.name.concat_of_ne (by decide) _,
      h.origin.concat_of_ne (by decide) _, _, .concat hread, rfl⟩

/-- One more call, whether it succeeds or not. -/
theorem Reflects.step {progress : Progress Settings} (h : Reflects progress) (call : Invocation) :
    Reflects (options.step progress call) := by
  obtain ⟨action, hruns, hok, hstep⟩ | hstep := Registry.step_cases atomic_options progress call
  · rw [hstep]
    obtain ⟨change, hsets, rfl⟩ | ⟨error, rfl⟩ := decided_of_runs hruns
    · exact h.sets hsets
    · cases hok
  · rwa [hstep]

/-- Whatever options are called and whatever their arguments are, a call that fails leaves the
settings as they were, and in the end the settings are those that the successful calls have read at
last. -/
theorem atomic_and_reflects_run (calls : List Invocation) :
    options.Atomic ∧ Reflects (options.run calls .default) :=
  ⟨atomic_options, Registry.run_induction reflects_default (fun _ call h => h.step call) calls⟩

/-- The second origin has no `y` and the second palette skips an index, so the first ones stay; the
name is given twice. -/
theorem reflects_run_given_twice :
    options.run [⟨"origin", some "1,y=2"⟩, ⟨"name", some "a"⟩, ⟨"palette", some "0=red"⟩,
        ⟨"origin", some "3"⟩, ⟨"palette", some "1=blue"⟩, ⟨"name", some "b"⟩] .default =
      ⟨⟨false, some "b", some ⟨1, 2, none⟩, [.red]⟩, [⟨"origin", some "1,y=2"⟩, ⟨"name", some "a"⟩,
        ⟨"palette", some "0=red"⟩, ⟨"name", some "b"⟩]⟩ ∧
    Reflects ⟨⟨false, some "b", some ⟨1, 2, none⟩, [.red]⟩, [⟨"origin", some "1,y=2"⟩,
      ⟨"name", some "a"⟩, ⟨"palette", some "0=red"⟩, ⟨"name", some "b"⟩]⟩ := by
  refine (and_congr_right fun hrun => (congrArg Reflects hrun).to_iff).mp ⟨?run, ?reflects⟩
  case run => decide +kernel
  case reflects => exact (atomic_and_reflects_run _).2

end RpcSchema.Drawing
