import RpcSchema.Proofs.Success
import RpcSchema.Rpc.Wire

/-!
# Which parameter an error blames

An error in a parameter has a cause, which is what was expected of the value, and the name of the
parameter. Where the cause is found no name is known; the name comes from the keys on the way out,
and the innermost of them stays. So an error can be told from where its cause is: the name is the
last key on the way in.

A result is described by how the names and causes of its errors are related. Steps that are put
together are described by the relation that all of them have, and a step that looks at the value of
a key only has to be described as far as that value goes.

## Main definitions

* `Cause`, `Cause.error` — what was expected, and the error that blames a parameter for it
* `Json.Step`, `Json.innermostKey` — ways into values, and the last key on a way
* `Blames` — how the names and causes of errors are related

## Main results

* `blames_bind`, `blames_mapM` — steps put together
* `blames_atKey`, `blames_required`, `blames_optional` — steps that look at the value of a key
* `blames_insertSome` — steps that write the value of a key
-/

namespace RpcSchema

open Json (Members)

/-! ### Causes -/

/-- What was expected of a parameter: a shape, or a value in some domain. -/
inductive Cause
  | type (expected : String)
  | value (expected : String)

/-- The error that blames a parameter. -/
def Cause.error (name : String) : Cause → RpcError
  | .type expected => .invalidType name expected
  | .value expected => .invalidValue name expected

/-- The classes of the errors that blame a parameter for its value. -/
def RpcError.parameterClasses : List String := ["InvalidParameterType", "InvalidParameterValue"]

theorem Cause.className_error (name : String) (cause : Cause) :
    (cause.error name).className ∈ RpcError.parameterClasses := by
  cases cause
  · exact .head _
  · exact .tail _ (.head _)

theorem Cause.error_inj (cause : Cause) {other : Cause} {name name' : String} :
    cause.error name = other.error name' ↔ name = name' ∧ cause = other := by
  cases cause <;> cases other <;> simp [error]

/-- The data of an error that blames a parameter has its name. -/
theorem Cause.name_data (name : String) (cause : Cause) :
    (cause.error name).data.get? "name" = some (.string name) := by
  cases cause <;> rfl

/-! ### Ways into values -/

/-- One step into a value: to the value of a key, or to an item of a list. -/
inductive Json.Step
  | key (name : String)
  | item (place : Nat)

/-- The last key on a way into a value, if there is any. -/
def Json.innermostKey : List Json.Step → Option String
  | [] => none
  | .key name :: rest => some ((innermostKey rest).getD name)
  | .item _ :: rest => innermostKey rest

/-! ### Results -/

/-- How the names and causes are related that the errors of a result have, if these blame a
parameter. -/
def Blames {α : Type} (R : String → Cause → Prop) (result : Except RpcError α) : Prop :=
  ∀ error, result = .error error → error.className ∈ RpcError.parameterClasses →
    ∃ name cause, error = cause.error name ∧ R name cause

section

variable {α β : Type} {R S : String → Cause → Prop}

theorem blames_ok (a : α) : Blames R (.ok a) := nofun

theorem blames_error {name : String} (cause : Cause) (h : R name cause) :
    Blames R (.error (cause.error name) : Except RpcError α) := by
  rintro _ ⟨⟩ -
  exact ⟨name, cause, rfl, h⟩

/-- An error of another class blames no parameter. -/
theorem blames_other {error : RpcError} (h : error.className ∉ RpcError.parameterClasses) :
    Blames R (.error error : Except RpcError α) := by
  rintro _ ⟨⟩ hclass
  exact absurd hclass h

theorem blames_missing (name : String) :
    Blames R (.error (.missingParameter name) : Except RpcError α) :=
  blames_other (by simp [RpcError.className, RpcError.parameterClasses])

theorem Blames.imp {result : Except RpcError α} (h : Blames R result)
    (hR : ∀ name cause, R name cause → S name cause) : Blames S result := by
  intro error herror hclass
  obtain ⟨name, cause, heq, hcause⟩ := h error herror hclass
  exact ⟨name, cause, heq, hR name cause hcause⟩

theorem blames_bind {x : Except RpcError α} {f : α → Except RpcError β} (hx : Blames R x)
    (hf : ∀ a, x = .ok a → Blames R (f a)) : Blames R (x >>= f) := by
  cases x with
  | error e => exact fun error herror => hx error (by cases herror; rfl)
  | ok a => exact hf a rfl

theorem blames_map {x : Except RpcError α} (hx : Blames R x) (f : α → β) : Blames R (x.map f) := by
  cases x with
  | error e => exact fun error herror => hx error (by cases herror; rfl)
  | ok a => exact blames_ok (f a)

theorem blames_of_map {x : Except RpcError α} {f : α → β} (h : Blames R (x.map f)) :
    Blames R x := by
  cases x with
  | error e => exact fun error herror => h error (by cases herror; rfl)
  | ok a => exact blames_ok a

/-- The error of a list is that of the first of its items that has one. -/
theorem blames_mapM {f : α → Except RpcError β} {items : List α}
    (h : ∀ before a after, items = before ++ a :: after → (∀ b ∈ before, ∃ r, f b = .ok r) →
      Blames R (f a)) : Blames R (items.mapM f) := by
  induction items with
  | nil => exact blames_ok []
  | cons item rest ih =>
    rw [List.mapM_cons]
    refine blames_bind (h [] item rest rfl (List.forall_mem_nil _)) fun r hr => ?_
    refine blames_bind (ih fun before a after hrest hbefore => ?_) fun rs _ => blames_ok (r :: rs)
    exact h (item :: before) a after (congrArg _ hrest)
      (List.forall_mem_cons.mpr ⟨⟨r, hr⟩, hbefore⟩)

/-! ### Keys -/

/-- The name that an error has once it was seen from a key. -/
def nameAt (key name : String) : String := if name = RpcError.unknownParameter then key else name

@[simp] theorem nameAt_unknown (key : String) : nameAt key RpcError.unknownParameter = key :=
  if_pos rfl

theorem nameAt_of_ne {key name : String} (h : name ≠ RpcError.unknownParameter) :
    nameAt key name = name :=
  if_neg h

/-- Seen from a key, the last key on a way stays, and where there is none the key takes its
place. -/
theorem nameAt_innermostKey (key : String) {way : List Json.Step}
    (h : ∀ inner ∈ Json.innermostKey way, inner ≠ RpcError.unknownParameter) :
    nameAt key ((Json.innermostKey way).getD RpcError.unknownParameter) =
      (Json.innermostKey way).getD key := by
  cases hway : Json.innermostKey way with
  | none => exact nameAt_unknown key
  | some inner => exact nameAt_of_ne (h inner hway)

theorem inField_error (key name : String) (cause : Cause) :
    RpcError.inField key (cause.error name) = cause.error (nameAt key name) := by
  cases cause <;> rfl

theorem className_inField (key : String) (error : RpcError) :
    (error.inField key).className = error.className := by
  cases error <;> rfl

theorem blames_atKey {result : Except RpcError α} {key : String}
    (h : Blames (fun name => R (nameAt key name)) result) :
    Blames R (RpcError.atKey key result) := by
  cases result with
  | ok a => exact blames_ok a
  | error e =>
    rintro _ ⟨⟩ hclass
    rw [className_inField] at hclass
    obtain ⟨name, cause, rfl, hcause⟩ := h e rfl hclass
    exact ⟨nameAt key name, cause, inField_error key name cause, hcause⟩

variable [Wire α] {members : Members} {key : String}

section

variable (h : ∀ j, members.get? key = some j →
  Blames (fun name => R (nameAt key name)) (Wire.ofWire j : Except RpcError α))

include h

theorem blames_required : Blames R (Wire.required α members key) := by
  rw [Wire.required]
  cases hget : members.get? key with
  | none => exact blames_missing key
  | some j => exact blames_atKey (h j hget)

theorem blames_optional : Blames R (Wire.optional α members key) := by
  rw [Wire.optional]
  cases hget : members.get? key with
  | none => exact blames_ok none
  | some j => exact blames_map (blames_atKey (h j hget)) some

end

theorem blames_insertSome {value : Option α}
    (h : ∀ v ∈ value, Blames (fun name => R (nameAt key name)) (Wire.toWire v)) :
    Blames R (Wire.insertSome members key value) := by
  cases value with
  | none => exact blames_ok members
  | some v => exact blames_map (blames_atKey (h v rfl)) _

end

end RpcSchema
