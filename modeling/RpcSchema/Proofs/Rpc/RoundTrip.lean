import RpcSchema.Proofs.Rpc.Bounded
import RpcSchema.Proofs.Rpc.Replies

/-!
# Envelopes read back whole

Every envelope comes back from its text: a request, a response and an event message as what it is,
and the latter two also as a message of either kind. Parts that are left out of the text come back
as their defaults, since only the default of a part is ever left out.

What an envelope carries has to survive being written as text and read again. This is `Fits` for
the JSON form of the whole envelope: distinct keys, integers of a word, floats that their text gives
back, and no more open containers than a reader allows. An identification that is `null` is written
but read as none, so it is the one that does not come back. No reader ever makes it.

## Main results

* `EventMessage.ofTree?_of` — an event message comes back from its tree
* `ServerMessage.parse?_event`, `ServerMessage.parse?_response` — either message comes back as the
  kind that it is
* `Request.id_ne_null`, `Response.id_ne_null` — no identification is read as `null`
* `envelopes_roundTrip` — every envelope comes back from its text
-/

namespace RpcSchema

open Json (Fits Tree Members)

/-! ### Event messages -/

theorem anyPart?_toInt (n : Int64) : anyPart? (Tree.of (.int n.toInt)) = some (.int n.toInt) :=
  anyPart?_of (.int (isInteger_toInt n))

theorem word?_toInt (n : Int64) : (Json.int n.toInt).word? = some n.toInt :=
  if_pos (isWord_toInt n)

/-- A point of time comes back from its part. -/
theorem timestampPart?_of (t : Timestamp) : timestampPart? (Tree.of t.toJson) = some t := by
  obtain ⟨seconds, microseconds⟩ := t
  have hparts : parts? [["seconds"], ["microseconds"]]
      (Tree.of (Timestamp.toJson ⟨seconds, microseconds⟩)) =
        some [some (Tree.of (.int seconds.toInt)),
          some (Tree.of (.int microseconds.toNat))] := rfl
  have hread : anyPart? (Tree.of (.int microseconds.toNat)) = some (.int microseconds.toNat) := rfl
  have hrange : (0 ≤ (microseconds.toNat : Int) && (microseconds.toNat : Int) < UInt32.size) =
      true := by
    rw [Bool.and_eq_true, decide_eq_true_eq, decide_eq_true_eq]
    exact ⟨Int.natCast_nonneg _, Int.ofNat_lt.mpr microseconds.toNat_lt_size⟩
  -- one `rw` a step: `simp` would let the kernel compare with `UInt32.size` in unary
  rw [timestampPart?, hparts, Option.bind_eq_bind, Option.bind_some]
  dsimp only
  rw [anyPart?_toInt, Option.bind_eq_bind, Option.bind_some, word?_toInt, Option.bind_eq_bind,
    Option.bind_some, hread, Option.bind_eq_bind, Option.bind_some]
  dsimp only
  rw [guard, if_pos hrange, Option.pure_def, Option.bind_some, Int.toNat_natCast,
    UInt32.ofNat_toNat, Int64.ofInt_toInt, Option.pure_def]

/-- The tag of an event message comes back from its part. -/
theorem optionalPart_tag (tag : Option Int64) :
    optionalPart Json.word? (tag.map fun tag => Tree.of (.int tag.toInt)) =
      some (tag.map (·.toInt)) := by
  cases tag with
  | none => rfl
  | some tag =>
    rw [Option.map_some, optionalPart, partOr, anyPart?_toInt]
    exact congrArg (Option.map some) (word?_toInt tag)

variable {message : EventMessage}

/-- An event message has its parts under their keys. -/
theorem EventMessage.parts?_toJson :
    parts? [["event"], ["timestamp"], ["data"], ["tag"]] (Tree.of message.toJson) =
      some [some (Tree.of (.string message.event)), some (Tree.of message.timestamp.toJson),
        some (Tree.of message.data), message.tag.map fun tag => Tree.of (.int tag.toInt)] := by
  obtain ⟨event, timestamp, data, tag⟩ := message
  cases tag <;> rfl

theorem Timestamp.fits_toJson (t : Timestamp) : Fits 1 t.toJson := by
  have hmicroseconds : Json.Token.IsInteger t.microseconds.toNat :=
    ⟨by simp, by have := t.microseconds.toNat_lt; simp; omega⟩
  refine .object (by simp) ?_
  simpa using ⟨.int (isInteger_toInt t.seconds), .int hmicroseconds⟩

/-- Of an event message only its data may fail to fit. -/
theorem EventMessage.fits_toJson_iff :
    Fits Tree.maxDepth message.toJson ↔ Fits partDepth message.data := by
  constructor
  · intro h
    obtain ⟨-, hmembers⟩ := Json.fits_object_iff.mp h
    exact hmembers ("data", message.data) (by simp)
  · obtain ⟨event, timestamp, data, tag⟩ := message
    intro hdata
    have htimestamp : Fits partDepth timestamp.toJson := timestamp.fits_toJson.mono (by decide)
    refine Json.fits_object_iff.mpr ⟨by cases tag <;> simp, ?_⟩
    cases tag with
    | none => simpa using ⟨.string event, htimestamp, hdata⟩
    | some tag => simpa using ⟨.string event, htimestamp, hdata, .int (isInteger_toInt tag)⟩

/-- An event message comes back from its tree. -/
theorem EventMessage.ofTree?_of (h : Fits Tree.maxDepth message.toJson) :
    EventMessage.ofTree? (Tree.of message.toJson) = some message := by
  rw [EventMessage.ofTree?, EventMessage.parts?_toJson]
  simp only [Option.bind_eq_bind, Option.bind_some, textPart?_of, timestampPart?_of, partOr,
    anyPart?_of (EventMessage.fits_toJson_iff.mp h), optionalPart_tag, Option.map_map]
  obtain ⟨event, timestamp, data, tag⟩ := message
  cases tag with
  | none => rfl
  | some tag => simp

/-! ### Either message -/

/-- A response is no event message: it has no name. -/
theorem EventMessage.ofTree?_response (response : Response) :
    EventMessage.ofTree? (Tree.of response.toJson) = none := by
  obtain ⟨outcome, id⟩ := response
  cases outcome <;> cases id <;> rfl

theorem ServerMessage.parse?_compact {value : Json} (h : Fits Tree.maxDepth value) :
    ServerMessage.parse? value.compact = do
      match EventMessage.ofTree? (Tree.of value) with
      | some message => return .event message
      | none => return .response (← Response.ofTree? (Tree.of value)) := by
  have hvalue : (Tree.of value).value?.isSome :=
    Option.isSome_of_eq_some (Tree.valueWithin?_of h)
  rw [ServerMessage.parse?, Tree.parse?_compact h, Option.bind_eq_bind, Option.bind_some,
    ServerMessage.ofTree?, guard, if_pos hvalue]
  rfl

/-- An event message comes back as the message of a server. -/
theorem ServerMessage.parse?_event (h : Fits Tree.maxDepth message.toJson) :
    ServerMessage.parse? message.text = some (.event message) := by
  refine (ServerMessage.parse?_compact h).trans ?_
  rw [EventMessage.ofTree?_of h]
  rfl

/-- A response comes back as the message of a server. -/
theorem ServerMessage.parse?_response {response : Response}
    (houtcome : Fits partDepth response.outcome.member.2) (hid : IsIdentification response.id) :
    ServerMessage.parse? response.text = some (.response response) := by
  refine (ServerMessage.parse?_compact (Response.fits_toJson houtcome hid)).trans ?_
  rw [EventMessage.ofTree?_response, Response.ofTree?_of houtcome hid]
  rfl

/-! ### Identifications -/

/-- No identification is read as `null`. -/
theorem ne_null_of_optionalPart {part : Option Tree} {id : Option Json}
    (h : optionalPart some part = some id) : id ≠ some .null := by
  rintro rfl
  obtain ⟨tree, -, h⟩ := Option.bind_eq_some_iff.mp (eq_of_optionalPart h).symm
  obtain ⟨value, -, h⟩ := Option.bind_eq_some_iff.mp h
  cases value <;> cases h

theorem Request.id_ne_null {text : String} {request : Request}
    (h : Request.parse? text = some request) : request.id ≠ some .null := by
  obtain ⟨tree, -, h⟩ := Option.bind_eq_some_iff.mp h
  obtain ⟨parts, -, h⟩ := Option.bind_eq_some_iff.mp h
  split at h
  · obtain ⟨name, -, h⟩ := Option.bind_eq_some_iff.mp h
    obtain ⟨members, -, h⟩ := Option.bind_eq_some_iff.mp h
    obtain ⟨id, hid, h⟩ := Option.bind_eq_some_iff.mp h
    obtain rfl := Option.some.inj h
    exact ne_null_of_optionalPart hid
  · cases h

theorem Response.id_ne_null_of_ofTree? {tree : Tree} {response : Response}
    (h : Response.ofTree? tree = some response) : response.id ≠ some .null := by
  obtain ⟨-, -, h⟩ := Option.bind_eq_some_iff.mp h
  split at h
  · split at h
    · obtain ⟨outcome, -, h⟩ := Option.bind_eq_some_iff.mp h
      obtain rfl := Option.some.inj h
      exact nofun
    · obtain ⟨outcome, -, h⟩ := Option.bind_eq_some_iff.mp h
      obtain ⟨id, hid, h⟩ := Option.bind_eq_some_iff.mp h
      obtain rfl := Option.some.inj h
      exact ne_null_of_optionalPart hid
    · cases h
  · cases h

theorem Response.id_ne_null {text : String} {response : Response}
    (h : Response.parse? text = some response) : response.id ≠ some .null := by
  obtain ⟨tree, -, h⟩ := Option.bind_eq_some_iff.mp h
  exact Response.id_ne_null_of_ofTree? h

theorem ServerMessage.id_ne_null {text : String} {response : Response}
    (h : ServerMessage.parse? text = some (.response response)) : response.id ≠ some .null := by
  obtain ⟨tree, -, h⟩ := Option.bind_eq_some_iff.mp h
  obtain ⟨-, -, h⟩ := Option.bind_eq_some_iff.mp h
  split at h
  · cases h
  · obtain ⟨found, hfound, h⟩ := Option.bind_eq_some_iff.mp h
    cases h
    exact Response.id_ne_null_of_ofTree? hfound

/-! ### All envelopes -/

/-- The parts of a request fit if it does. -/
theorem Request.fits_parts {request : Request} (h : Fits Tree.maxDepth request.toJson) :
    Fits partDepth (.object request.arguments) ∧ ∀ id ∈ request.id, Fits partDepth id := by
  obtain ⟨-, hmembers⟩ := Json.fits_object_iff.mp h
  obtain ⟨execute, arguments, id⟩ := request
  constructor
  · cases arguments with
    | nil => exact .object .nil nofun
    | cons m rest => exact hmembers ("arguments", .object (m :: rest)) (by simp)
  · rintro id ⟨rfl⟩
    exact hmembers ("id", id) (by simp [idMembers])

/-- The parts of a response fit if it does. -/
theorem Response.fits_parts {response : Response} (h : Fits Tree.maxDepth response.toJson) :
    Fits partDepth response.outcome.member.2 ∧ ∀ id ∈ response.id, Fits partDepth id := by
  obtain ⟨-, hmembers⟩ := Json.fits_object_iff.mp h
  obtain ⟨hmember, hid⟩ := List.forall_mem_cons.mp hmembers
  refine ⟨hmember, fun id hsome => hid ("id", id) ?_⟩
  rw [hsome]
  exact List.mem_singleton_self _

/-- An identification that fits reads back, unless it is `null`. -/
theorem isIdentification_of_fits {id : Option Json} (h : ∀ value ∈ id, Fits partDepth value)
    (hnull : id ≠ some .null) : IsIdentification id := by
  refine fun value hvalue => ⟨h value hvalue, ?_⟩
  rintro rfl
  exact hnull hvalue

/-- Every envelope whose JSON form survives being a text comes back from its text as it was, with
its arguments in their order, whatever it carries, unless its identification is `null`; and no
reader makes an identification that is. A message of a server comes back as the kind that it is. -/
theorem envelopes_roundTrip :
    (∀ request : Request, Fits Tree.maxDepth request.toJson → request.id ≠ some .null →
      Request.parse? request.text = some request) ∧
    (∀ response : Response, Fits Tree.maxDepth response.toJson → response.id ≠ some .null →
      Response.parse? response.text = some response ∧
        ServerMessage.parse? response.text = some (.response response)) ∧
    (∀ message : EventMessage, Fits Tree.maxDepth message.toJson →
      EventMessage.parse? message.text = some message ∧
        ServerMessage.parse? message.text = some (.event message)) ∧
    (∀ text request, Request.parse? text = some request → request.id ≠ some .null) ∧
    (∀ text response, Response.parse? text = some response → response.id ≠ some .null) ∧
    ∀ text response, ServerMessage.parse? text = some (.response response) →
      response.id ≠ some .null := by
  refine ⟨fun request hfits hnull => ?_, fun response hfits hnull => ?_, fun message hfits => ?_,
    fun _ _ => Request.id_ne_null, fun _ _ => Response.id_ne_null,
    fun _ _ => ServerMessage.id_ne_null⟩
  · obtain ⟨harguments, hid⟩ := Request.fits_parts hfits
    exact Request.parse?_text harguments (isIdentification_of_fits hid hnull)
  · obtain ⟨houtcome, hfitsId⟩ := Response.fits_parts hfits
    have hid : IsIdentification response.id := isIdentification_of_fits hfitsId hnull
    exact ⟨Response.parse?_of houtcome hid, ServerMessage.parse?_response houtcome hid⟩
  · refine ⟨?_, ServerMessage.parse?_event hfits⟩
    rw [EventMessage.parse?, EventMessage.text, Tree.parse?_compact hfits]
    exact EventMessage.ofTree?_of hfits

/-- Arguments in an order of their own, a result that is `null`, and an event message with every
part. -/
theorem envelopes_roundTrip_shapes :
    let request : Request := ⟨"put", [("y", .int 1), ("x", .null)], some (.string "a")⟩
    let response : Response := ⟨.result .null, some (.int 7)⟩
    let message : EventMessage := ⟨"MOVED", ⟨1, 2⟩, .object [("name", .string "p")], some 0⟩
    (Fits Tree.maxDepth request.toJson ∧ request.id ≠ some .null ∧
      Request.parse? request.text = some request) ∧
    (Fits Tree.maxDepth response.toJson ∧ response.id ≠ some .null ∧
      ServerMessage.parse? response.text = some (.response response)) ∧
    Fits Tree.maxDepth message.toJson ∧
      ServerMessage.parse? message.text = some (.event message) := by
  intro request response message
  have hint (n : Int64) (depth : Nat) : Fits depth (.int n.toInt) := .int (isInteger_toInt n)
  have hrequest : Fits Tree.maxDepth request.toJson := by
    refine Request.fits_toJson (.object (by decide) ?_) fun id hid => ?_
    · exact List.forall_mem_cons.mpr ⟨hint 1 _, List.forall_mem_singleton.mpr .null⟩
    · cases hid
      exact ⟨.string "a", nofun⟩
  have hresponse : Fits Tree.maxDepth response.toJson := by
    refine Response.fits_toJson .null fun id hid => ?_
    cases hid
    exact ⟨hint 7 _, nofun⟩
  have hmessage : Fits Tree.maxDepth message.toJson :=
    EventMessage.fits_toJson_iff.mpr
      (.object (by decide) (List.forall_mem_singleton.mpr (.string "p")))
  obtain ⟨hrequests, hresponses, hmessages, -⟩ := envelopes_roundTrip
  exact ⟨⟨hrequest, nofun, hrequests request hrequest nofun⟩,
    ⟨hresponse, nofun, (hresponses response hresponse nofun).2⟩,
    hmessage, (hmessages message hmessage).2⟩

end RpcSchema
