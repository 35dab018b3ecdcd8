import RpcSchema.Drawing.Settings
import RpcSchema.Proofs.Options.Attribution

/-!
# Options that name a parameter

The error of an option should name what it is about: the option, or a key of its payload that the
argument gives something for. It does, unless a part of the argument has a value without a key. Then
nothing at all is named.

## Main definitions

* `Payload` — the keys of a payload that something is given for
* `Attributed` — what an error of an option may name

## Main results

* `apply_blames_iff` — when the errors of an option name such a parameter
* `not_apply_blames` — an argument for which they do not
-/

namespace RpcSchema.Drawing

open RpcSchema.Options

/-- A key of the payload of an option, for which something is given: a field of a point, or an index
into a list. -/
inductive Payload : String → KeyValues → String → Prop
  | field {kvs : KeyValues} {key : String} (hkey : key ∈ ["x", "y", "label"])
    (hgiven : key ∈ kvs.segments) : Payload "origin" kvs key
  | item {kvs : KeyValues} {key : String} {n : Nat}
    (hkey : Decimal.natural? UInt64.size key = some n) (hgiven : key ∈ kvs.segments) :
    Payload "palette" kvs key

/-- What an error of an option may name: the option, or a key of its payload. -/
def Attributed (name : String) (argument : Option String) (parameter : String) : Prop :=
  (parameter = name ∨ ∃ kvs, options.Reads name argument kvs ∧ Payload name kvs parameter) ∧
    parameter ≠ RpcError.unknownParameter

/-! ### Payloads -/

theorem Payload.ne_unknown {name key : String} {kvs : KeyValues} (h : Payload name kvs key) :
    key ≠ RpcError.unknownParameter := by
  rintro rfl
  cases h with
  | field hkey _ => exact absurd hkey (by decide)
  | item hkey _ => cases hkey

section

variable {name : String} {argument : Option String}

theorem attributed_option (h : name ≠ RpcError.unknownParameter) :
    Attributed name argument (nameAt name RpcError.unknownParameter) := by
  rw [nameAt_unknown]
  exact ⟨.inl rfl, h⟩

theorem attributed_payload {kvs : KeyValues} (hreads : options.Reads name argument kvs)
    {key : String} (h : Payload name kvs key) : Attributed name argument (nameAt name key) := by
  rw [nameAt_of_ne h.ne_unknown]
  exact ⟨.inr ⟨kvs, hreads, h⟩, h.ne_unknown⟩

end

section

variable {α : Type} [OptionValue α] {R : String → Cause → Prop} {kvs : KeyValues}

theorem blames_setting (h : Blames R (OptionValue.ofPairs kvs : Except RpcError α))
    (change : α → Settings → Settings) (settings : Settings) :
    Blames R (setting change kvs settings).2 := by
  rw [setting]
  revert h
  cases (OptionValue.ofPairs kvs : Except RpcError α) with
  | ok value => exact fun _ => blames_ok ()
  | error error => exact fun h e he => h e (by cases he; rfl)

/-- A field of a point that cannot be read is blamed, and something was given for it. -/
theorem blames_fields
    (h : ∀ key ∈ ["x", "y", "label"], key ∈ kvs.segments → ∀ cause, R key cause) :
    Blames R (OptionValue.ofPairs kvs : Except RpcError Point) := by
  have hfield {key : String} (hkey : key ∈ ["x", "y", "label"]) {selected : KeyValues}
      (hselect : kvs.select? key = some selected) (cause : Cause) :
      R (nameAt key RpcError.unknownParameter) cause := by
    have hplain : ∀ key ∈ ["x", "y", "label"], key ≠ "" ∧ '.' ∉ key.toList := by decide
    obtain ⟨hne, hdot⟩ := hplain key hkey
    rw [nameAt_unknown]
    exact h key hkey (KeyValues.mem_segments_of_select? hne hdot hselect) cause
  refine blames_bind (OptionValue.blames_required fun _ hselect =>
    OptionValue.blames_ofScalar (hfield (by decide) hselect)) fun x _ => ?_
  refine blames_bind (OptionValue.blames_required fun _ hselect =>
    OptionValue.blames_ofScalar (hfield (by decide) hselect)) fun y _ => ?_
  refine blames_bind (OptionValue.blames_optional fun _ hselect =>
    OptionValue.blames_scalar (hfield (by decide) hselect _)) fun label _ => ?_
  exact blames_ok _

end

/-! ### Options -/

/-- What an option does with the keys and values it reads, if it fails, is named. -/
theorem blames_action {name : String} {argument : Option String} {form : ArgumentForm}
    {action : KeyValues → Action Settings} {kvs : KeyValues}
    (hmem : (name, .withArgument form action) ∈ options)
    (hreads : options.Reads name argument kvs) (settings : Settings) :
    Blames (fun parameter _ => Attributed name argument (nameAt name parameter))
      (action kvs settings).2 := by
  simp only [options, List.mem_cons, Prod.mk.injEq, reduceCtorEq, and_false, false_or,
    Entry.withArgument.injEq, List.not_mem_nil, or_false] at hmem
  obtain ⟨rfl, -, rfl⟩ | ⟨rfl, -, rfl⟩ | ⟨rfl, -, rfl⟩ := hmem
  case inl =>
    exact blames_setting (OptionValue.blames_scalar (attributed_option (by decide))) _ settings
  case inr.inl =>
    refine blames_setting (blames_fields fun key hkey hgiven _ => ?_) _ settings
    exact attributed_payload hreads (.field hkey hgiven)
  case inr.inr =>
    refine blames_setting (OptionValue.blames_list (fun _ => attributed_option (by decide))
      fun segment hgiven n hn selected => OptionValue.blames_label fun _ => ?_) _ settings
    rw [nameAt_unknown]
    exact attributed_payload hreads (.item hn hgiven)

/-- Whatever option is asked for and whatever its argument is, an error that blames a parameter for
its value names the option or a key of its payload, unless a part of the argument has a value but no
key. Then the settings stay as they are, and the error names no parameter that there is. -/
theorem apply_blames_iff (name : String) (argument : Option String) (settings : Settings) :
    (Blames (fun parameter _ => Attributed name argument parameter)
      (options.apply name argument settings).2 ↔ ¬ options.Keyless name argument) ∧
    (options.Keyless name argument → options.apply name argument settings =
      (settings, .error (.invalidValue RpcError.unknownParameter "a key before '='"))) := by
  have happly (h : options.Keyless name argument) := Registry.apply_keyless h settings
  refine ⟨⟨fun h hkeyless => ?_, fun hkeyless => ?_⟩, happly⟩
  · rw [happly hkeyless] at h
    obtain ⟨parameter, cause, heq, -, hknown⟩ :=
      h _ rfl (Cause.className_error _ (.value "a key before '='"))
    exact hknown ((Cause.error_inj (.value _)).mp heq).1.symm
  · refine Registry.blames_apply hkeyless (fun action hlookup => ?_)
      fun form action kvs hlookup hreads =>
        blames_action (KeyValues.mem_of_lookup hlookup) hreads settings
    have hmem := KeyValues.mem_of_lookup hlookup
    simp only [options, List.mem_cons, Prod.mk.injEq, reduceCtorEq, and_false,
      Entry.bare.injEq, List.not_mem_nil, or_false] at hmem
    obtain ⟨rfl, rfl⟩ := hmem
    exact ⟨⟨.inl rfl, by decide⟩, blames_ok ()⟩

/-- An item that is no color is named by its index. -/
theorem apply_blames_iff_item :
    let argument := some "0=red,1=purple"
    options.apply "palette" argument .default =
        (.default, .error (.invalidValue "1" "a valid Color")) ∧
      ¬ options.Keyless "palette" argument ∧ Attributed "palette" argument "1" := by
  intro argument
  let kvs : KeyValues := ⟨[("0", "red"), ("1", "purple")]⟩
  have hparse : (ArgumentForm.pairs none).read "0=red,1=purple" = .ok kvs := by decide +kernel
  have hfound : kvs.segments.mapM OptionValue.index = .ok [(0, "0"), (1, "1")] := by
    decide +kernel
  have hread : (OptionValue.ofPairs kvs : Except RpcError (List Color)) =
      .error (.invalidValue "1" "a valid Color") :=
    (bind_of_eq_ok (OptionValue.indexed_of_counting hfound rfl) _).trans (by decide +kernel)
  have hlookup : options.lookup "palette" = some (.withArgument (.pairs none)
      (setting fun palette settings => { settings with palette })) := rfl
  have happly : options.apply "palette" argument .default =
      (.default, .error (.invalidValue "1" "a valid Color")) := by
    simp only [Registry.apply, hlookup, argument, hparse, setting, hread]
    rfl
  have hkeyless : ¬ options.Keyless "palette" argument := by
    have hparts : ∀ part ∈ Text.splitWhere (· == ',') "0=red,1=purple".toList,
        part.head? ≠ some '=' := by decide
    rintro ⟨_, _, text, -, htext, part, hpart, hhead⟩
    obtain rfl := Option.some.inj htext
    exact hparts part hpart hhead
  obtain ⟨parameter, cause, heq, hattributed⟩ :=
    (apply_blames_iff "palette" argument .default).1.mpr hkeyless _ (congrArg Prod.snd happly)
      (Cause.className_error "1" (.value "a valid Color"))
  have hname : "1" = parameter := ((Cause.error_inj (.value _)).mp heq).1
  exact ⟨happly, hkeyless, hname ▸ hattributed⟩

/-- Not every error names something: a value without a key does not. -/
theorem not_apply_blames : ¬∀ (name : String) (argument : Option String) (settings : Settings),
    Blames (fun parameter _ => Attributed name argument parameter)
      (options.apply name argument settings).2 := by
  intro h
  have hkeyless : options.Keyless "palette" (some "=red") :=
    ⟨none, _, "=red", rfl, rfl, ['=', 'r', 'e', 'd'], by decide, rfl⟩
  have herror := congrArg Prod.snd (Registry.apply_keyless hkeyless .default)
  obtain ⟨parameter, cause, heq, -, hknown⟩ := h "palette" (some "=red") .default _ herror
    (Cause.className_error _ (.value "a key before '='"))
  exact hknown ((Cause.error_inj (.value _)).mp heq).1.symm

end RpcSchema.Drawing
