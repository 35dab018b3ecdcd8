import RpcSchema.Proofs.Json.RoundTrip
import RpcSchema.Rpc.Envelope

/-!
# Envelopes read back from their texts

A request and a response are objects of a few parts. Each part is found again under its key, so an
envelope comes back whole if what it carries fits: arguments, a result and an identification may
each open as many containers as a part may, and an identification is not `null`, which reads as
none.

An error carries text only, so it always fits. Its class and data give the error back, whatever the
texts in it are: an error of a command's own has no name in its data, so its class may be any.

## Main definitions

* `IsIdentification` — identifications that read back

## Main results

* `RpcError.ofWire_data` — an error comes back from its class and data
* `Request.parse?_text` — a request comes back from its text
* `Response.parse?_of` — a response comes back from its text
* `Response.parse?_text` — so does the response to any result
-/

namespace RpcSchema

open Json (Fits Tree Members)

/-! ### Errors -/

/-- An error comes back from its class and data. -/
theorem RpcError.ofWire_data (error : RpcError) :
    RpcError.ofWire error.className error.data = error := by
  cases error with
  | missingParameter name => rfl
  | invalidType name expected => rfl
  | invalidValue name expected => rfl
  | unionConstraint name members =>
    have htexts : (members.map Json.string).filterMap Json.string? = members := by
      rw [List.filterMap_map]
      exact List.filterMap_some
    exact congrArg (RpcError.unionConstraint name) htexts
  | commandNotFound name => rfl
  | generic className description => rfl

theorem RpcError.fits_data (error : RpcError) : Fits 2 (.object error.data) := by
  refine .object (by cases error <;> simp [RpcError.data, RpcError.details]) ?_
  rw [RpcError.data, List.forall_mem_append, List.forall_mem_singleton]
  refine ⟨?_, .string _⟩
  cases error with
  | missingParameter name => simpa [RpcError.details] using .string name
  | invalidType name expected =>
    simpa [RpcError.details] using ⟨.string name, .string expected⟩
  | invalidValue name expected =>
    simpa [RpcError.details] using ⟨.string name, .string expected⟩
  | unionConstraint name members =>
    have hmembers : Fits 1 (.array (members.map .string)) :=
      .array (List.forall_mem_map.mpr fun member _ => .string member)
    simpa [RpcError.details] using ⟨.string name, hmembers⟩
  | commandNotFound name => simpa [RpcError.details] using .string name
  | generic className description => simp [RpcError.details]

/-! ### Parts -/

/-- An identification that reads back: it fits, and is not the value that stands for none. -/
def IsIdentification (id : Option Json) : Prop :=
  ∀ value ∈ id, Fits partDepth value ∧ value ≠ .null

theorem isIdentification_none : IsIdentification none := nofun

theorem anyPart?_of {value : Json} (h : Fits partDepth value) :
    anyPart? (Tree.of value) = some value :=
  Tree.valueWithin?_of h

theorem textPart?_of (text : String) : textPart? (Tree.of (.string text)) = some text := by
  rw [textPart?, anyPart?_of (.string text)]
  rfl

theorem membersPart?_of {members : Members} (h : Fits partDepth (.object members)) :
    membersPart? (Tree.of (.object members)) = some members := by
  rw [membersPart?, anyPart?_of h]
  rfl

theorem optionalPart_of {id : Option Json} (h : IsIdentification id) :
    optionalPart some (id.map Tree.of) = some id := by
  cases id with
  | none => rfl
  | some id =>
    obtain ⟨hfits, hnull⟩ := h id rfl
    rw [Option.map_some, optionalPart, partOr, anyPart?_of hfits]
    cases id with
    | null => exact absurd rfl hnull
    | _ => rfl

theorem fits_idMembers {id : Option Json} (h : IsIdentification id) :
    ∀ m ∈ idMembers id, Fits partDepth m.2 := by
  cases id with
  | none => exact nofun
  | some id => simpa [idMembers] using (h id rfl).1

/-! ### Requests -/

section

variable {request : Request} (harguments : Fits partDepth (.object request.arguments))
  (hid : IsIdentification request.id)

include harguments hid

theorem Request.fits_toJson : Fits Tree.maxDepth request.toJson := by
  obtain ⟨execute, arguments, id⟩ := request
  change Fits (partDepth + 1) _
  refine Fits.object ?_ ?_
  · cases arguments <;> cases id <;> simp [idMembers]
  · rw [List.forall_mem_append, List.forall_mem_append, List.forall_mem_singleton]
    refine ⟨⟨.string execute, ?_⟩, fits_idMembers hid⟩
    cases arguments with
    | nil => exact nofun
    | cons m rest => simpa using harguments

omit harguments hid in
/-- A request has its parts under their keys. -/
theorem Request.parts?_toJson :
    parts? [["execute"], ["arguments", "data"], ["id"]] (Tree.of request.toJson) =
      some [some (Tree.of (.string request.execute)),
        if request.arguments.isEmpty then none else some (Tree.of (.object request.arguments)),
        request.id.map Tree.of] := by
  obtain ⟨execute, arguments, id⟩ := request
  cases arguments <;> cases id <;> rfl

/-- A request comes back from its text. -/
theorem Request.parse?_text : Request.parse? request.text = some request := by
  have hparts : partOr [] membersPart? (if request.arguments.isEmpty then none
      else some (Tree.of (.object request.arguments))) = some request.arguments := by
    cases hmembers : request.arguments with
    | nil => rfl
    | cons m rest => exact membersPart?_of (hmembers ▸ harguments)
  rw [Request.parse?, Request.text, Tree.parse?_compact (Request.fits_toJson harguments hid)]
  simp only [Option.bind_eq_bind, Option.bind_some, Request.ofTree?, Request.parts?_toJson,
    textPart?_of, hparts, optionalPart_of hid]
  rfl

end

/-! ### Responses -/

/-- The error of a written error. -/
theorem ErrorObject.ofTree?_of {object : ErrorObject} (h : Fits partDepth (.object object.data)) :
    ErrorObject.ofTree? (Tree.of object.toJson) = some object := by
  have hparts : parts? [["class"], ["data"]] (Tree.of object.toJson) =
      some [some (Tree.of (.string object.className)), some (Tree.of (.object object.data))] := rfl
  rw [ErrorObject.ofTree?, hparts]
  simp only [Option.bind_eq_bind, Option.bind_some, textPart?_of, partOr, membersPart?_of h]
  rfl

/-- The data of an error that fits as a part fits as well. -/
theorem ErrorObject.fits_data {object : ErrorObject} (h : Fits partDepth object.toJson) :
    Fits partDepth (.object object.data) := by
  obtain ⟨-, hmembers⟩ := Json.fits_object_iff.mp h
  exact (hmembers ("data", .object object.data) (by simp)).mono (by decide)

section

variable {response : Response} (houtcome : Fits partDepth response.outcome.member.2)
  (hid : IsIdentification response.id)

include houtcome

/-- A response has its outcome under the first key. -/
theorem Response.ofMembers?_of (rest : Members) :
    Outcome.ofMembers? (Tree.ofMembers (response.outcome.member :: rest)) =
      some response.outcome := by
  obtain ⟨outcome, id⟩ := response
  cases outcome with
  | result value =>
    have hvalue : anyPart? (Tree.of value) = some value := anyPart?_of houtcome
    show (do return Outcome.result (← anyPart? (Tree.of value))) = _
    rw [hvalue]
    rfl
  | error object =>
    show (do return Outcome.error (← ErrorObject.ofTree? (Tree.of object.toJson))) = _
    rw [ErrorObject.ofTree?_of (ErrorObject.fits_data houtcome)]
    rfl

omit houtcome in
theorem Response.valuesOf_id : valuesOf ["id"]
    (Tree.ofMembers (response.outcome.member :: idMembers response.id)) =
      (response.id.map Tree.of).toList := by
  obtain ⟨outcome, id⟩ := response
  cases outcome <;> cases id <;> rfl

include hid

theorem Response.fits_toJson : Fits Tree.maxDepth response.toJson := by
  change Fits (partDepth + 1) _
  refine Fits.object ?_ (List.forall_mem_cons.mpr ⟨houtcome, fits_idMembers hid⟩)
  obtain ⟨outcome, id⟩ := response
  cases outcome <;> cases id <;> simp [Outcome.member, idMembers]

/-- The response of a written response. -/
theorem Response.ofTree?_of : Response.ofTree? (Tree.of response.toJson) = some response := by
  have htree : Tree.of response.toJson =
      .object (Tree.ofMembers (response.outcome.member :: idMembers response.id)) := rfl
  have hvalue : (Tree.of response.toJson).value?.isSome :=
    Option.isSome_of_eq_some (Tree.valueWithin?_of (Response.fits_toJson houtcome hid))
  rw [htree] at hvalue
  rw [htree, Response.ofTree?, guard, if_pos hvalue]
  simp only [Response.valuesOf_id, Response.ofMembers?_of houtcome]
  have hread := optionalPart_of hid
  obtain ⟨outcome, id⟩ := response
  cases id with
  | none => rfl
  | some id =>
    rw [Option.map_some] at hread
    simp only [Option.map_some, Option.toList_some, hread]
    rfl

/-- A response comes back from its text. -/
theorem Response.parse?_of : Response.parse? response.text = some response := by
  rw [Response.parse?, Response.text, Tree.parse?_compact (Response.fits_toJson houtcome hid)]
  exact Response.ofTree?_of houtcome hid

end

/-- A result whose value fits into a response; an error always does. -/
def FitsResult (result : Except RpcError Json) : Prop :=
  ∀ value, result = .ok value → Fits partDepth value

theorem RpcError.fits_toJson (error : RpcError) : Fits 3 (ErrorObject.of error).toJson := by
  refine .object (by simp) ?_
  simpa [ErrorObject.of] using ⟨.string _, error.fits_data⟩

theorem Response.id_ofResult {result : Except RpcError Json} {id : Option Json} :
    (Response.ofResult result id).id = id := by
  cases result <;> rfl

/-- The response to a result comes back from its text. -/
theorem Response.parse?_text {result : Except RpcError Json} {id : Option Json}
    (hresult : FitsResult result) (hid : IsIdentification id) :
    Response.parse? (Response.ofResult result id).text = some (.ofResult result id) := by
  refine Response.parse?_of ?_ (Response.id_ofResult.symm ▸ hid)
  cases result with
  | ok value => exact hresult value rfl
  | error error => exact (RpcError.fits_toJson error).mono (by decide)

end RpcSchema
