import RpcSchema.Labelled
import RpcSchema.Options.Registry
import RpcSchema.Proofs.Options.Lists
import RpcSchema.Proofs.Rpc.Causes

/-!
# Which parameter the error of an option blames

An error in the argument of an option blames a key of it, and where there is no such key the option
takes its place. This holds of every error in reading a value, since an option names what its action
could not read. It does not hold of the text of the argument: a part with a value but no key is
found while the keys are still being told apart, and that error passes the option by.

## Main definitions

* `KeyValues.Keyless` — texts with a part that has a value but no key
* `Registry.Keyless`, `Registry.Reads` — an option whose argument is such a text, and the keys and
  values that an option reads

## Main results

* `KeyValues.parse_eq_error_iff` — the texts that are no keys and values, and why
* `KeyValues.mem_segments_of_select?` — a key that something is given for is a segment
* `OptionValue.blames_list` — an item is blamed by its index
* `Registry.apply_keyless`, `Registry.blames_apply` — the errors of an option
-/

namespace RpcSchema.Options

open RpcSchema.Text

namespace KeyValues

/-! ### Arguments -/

/-- A part of the text has a value but no key. -/
def Keyless (text : String) : Prop :=
  ∃ part ∈ splitWhere (· == ',') text.toList, part.head? = some '='

variable {implicit : Option String} {error : RpcError}

theorem pair_eq_error_iff {isFirst : Bool} {part : List Char} :
    pair implicit isFirst part = .error error ↔
      part.head? = some '=' ∧ error = .wrongValue "a key before '='" := by
  cases part with
  | nil => cases implicit <;> cases isFirst <;> simp [pair]
  | cons c rest =>
    by_cases hc : c = '='
    · subst hc
      simp [pair, eq_comm]
    · have hkey : (c :: rest).takeWhile (· != '=') = c :: rest.takeWhile (· != '=') :=
        List.takeWhile_cons_of_pos (by simpa using hc)
      unfold pair
      rw [hkey]
      cases (c :: rest).dropWhile (· != '=') with
      | nil => cases implicit <;> cases isFirst <;> simp [hc]
      | cons _ _ => simp [hc]

/-- The first part without a key ends the reading, whatever the others are. -/
theorem pairsOf_eq_error_iff {parts : List (List Char)} {isFirst : Bool} :
    pairsOf implicit isFirst parts = .error error ↔
      (∃ part ∈ parts, part.head? = some '=') ∧ error = .wrongValue "a key before '='" := by
  induction parts generalizing isFirst with
  | nil => simp [pairsOf]
  | cons part rest ih =>
    rw [pairsOf, List.exists_mem_cons_iff]
    cases part with
    | nil => simp [ih]
    | cons c cs =>
      rw [if_neg (by simp)]
      cases hpair : pair implicit isFirst (c :: cs) with
      | error e =>
        obtain ⟨hhead, rfl⟩ := pair_eq_error_iff.mp hpair
        simp [hhead, bind, Except.bind, eq_comm]
      | ok p =>
        have hhead : (c :: cs).head? ≠ some '=' := fun h => by
          rw [pair_eq_error_iff.mpr ⟨h, rfl⟩] at hpair
          cases hpair
        rw [or_iff_right hhead, ← ih]
        cases pairsOf implicit false rest <;> simp [bind, Except.bind, pure, Except.pure]

theorem parse_eq_error_iff (implicit : Option String) {text : String} :
    parse implicit text = .error error ↔
      Keyless text ∧ error = .wrongValue "a key before '='" := by
  have hpairs : pairsOf implicit true (splitWhere (· == ',') text.toList) = .error error ↔
      Keyless text ∧ error = .wrongValue "a key before '='" := pairsOf_eq_error_iff
  rw [← hpairs, parse]
  cases pairsOf implicit true (splitWhere (· == ',') text.toList) <;> simp [Except.map]

/-! ### Selection -/

/-- A key for which something is given is the first segment of what it is given for. -/
theorem mem_segments_of_select? {kvs selected : KeyValues} {key : String} (hne : key ≠ "")
    (hkey : '.' ∉ key.toList) (h : kvs.select? key = some selected) : key ∈ kvs.segments := by
  refine mem_segments.mpr ⟨hne, ?_⟩
  rw [select?] at h
  split at h
  · rename_i value hlookup
    have hmem : (key, value) ∈ kvs.pairs := List.mem_reverse.mp (mem_of_lookup hlookup)
    exact ⟨_, hmem, firstSegment_eq (List.append_nil _).symm hkey (by simp)⟩
  · split at h
    · cases h
    · rename_i hnested
      obtain ⟨_, hmem⟩ := List.exists_mem_of_ne_nil _ hnested
      obtain ⟨p, hp, hbelow⟩ := List.mem_filterMap.mp hmem
      obtain ⟨rest, hrest, -⟩ := Option.map_eq_some_iff.mp hbelow
      exact ⟨p, hp, firstSegment_of_below? hkey hrest⟩

end KeyValues

/-! ### Values -/

namespace OptionValue

open KeyValues

variable {α : Type} {R : String → Cause → Prop} {kvs : KeyValues} {key : String}

theorem blames_scalar (h : R RpcError.unknownParameter (.type "a scalar value")) :
    Blames R kvs.scalar? := by
  rw [scalar?]
  split
  · exact blames_ok _
  · exact blames_error (.type "a scalar value") h

theorem blames_ofScalar {expected : String} {read : String → Option α}
    (h : ∀ cause, R RpcError.unknownParameter cause) : Blames R (ofScalar expected read kvs) := by
  refine blames_bind (blames_scalar (h _)) fun text _ => ?_
  cases read text with
  | none => exact blames_error (.value expected) (h _)
  | some value => exact blames_ok value

theorem blames_label [Labelled α] (h : ∀ cause, R RpcError.unknownParameter cause) :
    Blames R (Labelled.optionValue.ofPairs (α := α) kvs) := by
  refine blames_bind (blames_scalar (h _)) fun text _ => ?_
  rw [Labelled.ofLabel]
  cases Labelled.ofLabel? (α := α) text with
  | none => exact blames_error (.value (Labelled.expected α)) (h _)
  | some value => exact blames_ok value

section

variable [OptionValue α]
  (h : ∀ selected, kvs.select? key = some selected →
    Blames (fun name => R (nameAt key name)) (ofPairs selected : Except RpcError α))

include h

theorem blames_required : Blames R (required α kvs key) := by
  rw [required]
  cases hselect : kvs.select? key with
  | none => exact blames_missing key
  | some selected => exact blames_atKey (h selected hselect)

theorem blames_optional : Blames R (optional α kvs key) := by
  rw [optional]
  cases hselect : kvs.select? key with
  | none => exact blames_ok none
  | some selected => exact blames_map (blames_atKey (h selected hselect)) some

end

/-- The indexes are nobody's but the list's. -/
theorem blames_indexed (h : ∀ cause, R RpcError.unknownParameter cause) :
    Blames R (indexed kvs) := by
  refine blames_bind (blames_mapM fun _ segment _ _ _ => ?_) fun found _ => ?_
  · rw [index]
    cases Decimal.natural? UInt64.size segment with
    | none => exact blames_error (.value "list indexes") (h _)
    | some n => exact blames_ok (n, segment)
  · dsimp only
    split
    · exact blames_ok _
    · exact blames_error (.value "list indexes counting up from 0") (h _)

/-- An item is blamed by the segment that writes its index. -/
theorem blames_list [OptionValue α] (h : ∀ cause, R RpcError.unknownParameter cause)
    (hitem : ∀ segment ∈ kvs.segments, ∀ n,
      Decimal.natural? UInt64.size segment = some n → ∀ selected,
        Blames (fun name => R (nameAt segment name)) (ofPairs selected : Except RpcError α)) :
    Blames R (ofPairs kvs : Except RpcError (List α)) := by
  rw [ofPairs_list]
  refine blames_bind (blames_indexed h) fun ordered hordered => ?_
  obtain ⟨hperm, hindex⟩ := indexed_eq_ok hordered
  refine blames_mapM fun before segment after hsplit _ => blames_required fun selected _ => ?_
  have hmem : segment ∈ ordered := by
    rw [hsplit]
    exact List.mem_append_right before List.mem_cons_self
  have hnumber := List.mem_map_of_mem (f := Decimal.natural? UInt64.size) hmem
  rw [hindex] at hnumber
  obtain ⟨n, -, hn⟩ := List.mem_map.mp hnumber
  exact hitem segment (hperm.mem_iff.mp hmem) n hn.symm selected

end OptionValue

/-! ### Options -/

namespace Registry

variable {σ : Type} {registry : Registry σ} {name : String} {argument : Option String}

/-- An option that reads keys and values has an argument in which a value has no key. -/
def Keyless (registry : Registry σ) (name : String) (argument : Option String) : Prop :=
  ∃ implicit action text, registry.lookup name = some (.withArgument (.pairs implicit) action) ∧
    argument = some text ∧ KeyValues.Keyless text

/-- An option that takes an argument reads keys and values from it. -/
def Reads (registry : Registry σ) (name : String) (argument : Option String) (kvs : KeyValues) :
    Prop :=
  ∃ form action text, registry.lookup name = some (.withArgument form action) ∧
    argument = some text ∧ form.read text = .ok kvs

/-- The error of a text in which a value has no key stays as it was found. -/
theorem apply_keyless (h : registry.Keyless name argument) (state : σ) :
    registry.apply name argument state =
      (state, .error (.wrongValue "a key before '='")) := by
  obtain ⟨implicit, action, text, hlookup, rfl, hkeyless⟩ := h
  have hparse := (KeyValues.parse_eq_error_iff implicit).mpr ⟨hkeyless, rfl⟩
  simp only [apply, hlookup, ArgumentForm.read, hparse]

/-- Where the text of the argument can be read, an error is one of the option, or one of its action
and seen from the option. -/
theorem blames_apply {R : String → Cause → Prop} {state : σ}
    (hkeyless : ¬ registry.Keyless name argument)
    (hbare : ∀ action, registry.lookup name = some (.bare action) →
      R name (.value "no argument") ∧ Blames R (action state).2)
    (haction : ∀ form action kvs, registry.lookup name = some (.withArgument form action) →
      registry.Reads name argument kvs →
        Blames (fun parameter => R (nameAt name parameter)) (action kvs state).2) :
    Blames R (registry.apply name argument state).2 := by
  unfold apply
  split
  · exact blames_other (by simp [RpcError.className, RpcError.parameterClasses])
  · rename_i action hlookup
    exact (hbare action hlookup).2
  · rename_i action _ hlookup
    exact blames_error (.value "no argument") (hbare action hlookup).1
  · exact blames_missing name
  · rename_i form action text hlookup
    split
    · rename_i hread
      cases form with
      | scalar => cases hread
      | pairs implicit =>
        have hparse := (KeyValues.parse_eq_error_iff implicit).mp hread
        exact absurd ⟨implicit, action, text, hlookup, rfl, hparse.1⟩ hkeyless
    · rename_i kvs hread
      exact blames_atKey (haction form action kvs hlookup ⟨form, action, text, hlookup, rfl, hread⟩)

end Registry

end RpcSchema.Options
