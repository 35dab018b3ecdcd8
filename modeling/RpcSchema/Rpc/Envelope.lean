import RpcSchema.Json.Printer
import RpcSchema.Json.Reader
import RpcSchema.Rpc.Error

/-!
# Envelopes

The messages between a client and a server. A request names a command and has arguments and an
identification; a response has an outcome, which is a result or an error, and the identification
of its request; an event message has a name, a time, data and the tag of a subscription.

An envelope is written as an object. It is read from an object, in which unknown keys are passed
over and known ones must not repeat, or from an array of the parts in order, which may stop early
at parts that have a default. A response is read from an object only: its outcome is the first
`return` or `error` that it has.

Most envelopes are read as a whole, so everything in them must be well formed. The three that a
peer sends alone are read part by part instead, and what an unknown key holds is never looked at.

## Main definitions

* `Request`, `ErrorObject`, `Response`, `EventMessage`, `ServerMessage` — the envelopes
* `Request.toJson`, … — their JSON forms
* `Parts` — the parts of an envelope, found by key or by place
* `Request.ofTree?`, … — envelopes read from the tree of a text
* `Request.parse?`, … — envelopes read from text
-/

namespace RpcSchema

open Json (Members Tree)

/-! ### Envelopes -/

/-- A call of a command. -/
structure Request where
  execute : String
  arguments : Members
  id : Option Json

/-- An error as it crosses the wire. -/
structure ErrorObject where
  className : String
  data : Members

/-- The outcome of a call. -/
inductive Outcome
  | result (value : Json)
  | error (error : ErrorObject)

/-- The answer to a request. -/
structure Response where
  outcome : Outcome
  id : Option Json

/-- A point of time. -/
structure Timestamp where
  seconds : Int64
  microseconds : UInt32

/-- An event as it reaches a subscriber. -/
structure EventMessage where
  event : String
  timestamp : Timestamp
  data : Json
  /-- the subscription that the event is for -/
  tag : Option Int64

/-- Anything that a server sends. -/
inductive ServerMessage
  | event (message : EventMessage)
  | response (response : Response)

/-! ### Errors and outcomes -/

/-- The wire form of an error. -/
def ErrorObject.of (error : RpcError) : ErrorObject := ⟨error.className, error.data⟩

/-- The error of a wire form. -/
def ErrorObject.toError (object : ErrorObject) : RpcError :=
  RpcError.ofWire object.className object.data

/-- The response that carries a result. -/
def Response.ofResult (result : Except RpcError Json) (id : Option Json) : Response :=
  match result with
  | .ok value => ⟨.result value, id⟩
  | .error error => ⟨.error (.of error), id⟩

/-- The result that a response carries. -/
def Response.toResult (response : Response) : Except RpcError Json :=
  match response.outcome with
  | .result value => .ok value
  | .error object => .error object.toError

/-! ### Written envelopes -/

/-- The member of an identification, if there is one. -/
def idMembers (id : Option Json) : Members := (id.map fun id => ("id", id)).toList

/-- A request; empty arguments are left out. -/
def Request.toJson (request : Request) : Json :=
  .object ([("execute", .string request.execute)] ++
    (if request.arguments.isEmpty then [] else [("arguments", .object request.arguments)]) ++
    idMembers request.id)

/-- An error. -/
def ErrorObject.toJson (object : ErrorObject) : Json :=
  .object [("class", .string object.className), ("data", .object object.data)]

/-- The member of an outcome. -/
def Outcome.member : Outcome → String × Json
  | .result value => ("return", value)
  | .error object => ("error", object.toJson)

/-- A response. -/
def Response.toJson (response : Response) : Json :=
  .object (response.outcome.member :: idMembers response.id)

/-- A point of time. -/
def Timestamp.toJson (t : Timestamp) : Json :=
  .object [("seconds", .int t.seconds.toInt), ("microseconds", .int t.microseconds.toNat)]

/-- An event message. -/
def EventMessage.toJson (message : EventMessage) : Json :=
  .object ([("event", .string message.event), ("timestamp", message.timestamp.toJson),
    ("data", message.data)] ++ (message.tag.map fun tag => ("tag", Json.int tag.toInt)).toList)

/-- Either message. -/
def ServerMessage.toJson : ServerMessage → Json
  | .event m => m.toJson
  | .response r => r.toJson

/-! ### Parts -/

/-- The trees of the parts of an envelope, in the order of its parts. -/
abbrev Parts := List (Option Tree)

/-- The values that an object has under a key or one of its other names. -/
def valuesOf (names : List String) (members : List (Option String × Tree)) : List Tree :=
  members.filterMap fun (key, value) =>
    match key with
    | some key => if names.contains key then some value else none
    | none => none

/-- The parts of an envelope whose parts have the given names each. A part that an object has
twice, and a part too many in an array, are refused. -/
def parts? (names : List (List String)) : Tree → Option Parts
  | .object members =>
    if members.any (·.1.isNone) then none
    else names.mapM fun names =>
      match valuesOf names members with
      | [] => some none
      | [value] => some (some value)
      | _ => none
  | .array items =>
    if names.length < items.length then none
    else some (items.map some ++ List.replicate (names.length - items.length) none)
  | _ => none

/-- The most arrays and objects that a part may open, inside the envelope that it is a part of. -/
def partDepth : Nat := Tree.maxDepth - 1

/-- A part that is any value. -/
def anyPart? (part : Tree) : Option Json := part.valueWithin? partDepth

/-- A part that is text. -/
def textPart? (part : Tree) : Option String := (anyPart? part).bind Json.string?

/-- A part that is an object. -/
def membersPart? (part : Tree) : Option Members := (anyPart? part).bind Json.object?

/-- A part that may be absent and has a default; a part that is there must be well formed. -/
def partOr (default : α) (read : Tree → Option α) : Option Tree → Option α
  | some part => read part
  | none => some default

/-- A part that may be absent or `null`. -/
def optionalPart (read : Json → Option α) : Option Tree → Option (Option α) :=
  partOr none fun part =>
    match anyPart? part with
    | some .null => some none
    | some value => (read value).map some
    | none => none

/-- A part that is a point of time. -/
def timestampPart? (part : Tree) : Option Timestamp := do
  match ← parts? [["seconds"], ["microseconds"]] part with
  | [some seconds, some microseconds] =>
    let seconds ← (← anyPart? seconds).word?
    match ← anyPart? microseconds with
    | .int n =>
      guard (0 ≤ n && n < UInt32.size)
      return ⟨.ofInt seconds, .ofNat n.toNat⟩
    | _ => none
  | _ => none

/-! ### Envelopes of trees -/

/-- The request of a tree. Its arguments may be called data. -/
def Request.ofTree? (tree : Tree) : Option Request := do
  match ← parts? [["execute"], ["arguments", "data"], ["id"]] tree with
  | [some execute, arguments, id] =>
    return ⟨← textPart? execute, ← partOr [] membersPart? arguments, ← optionalPart some id⟩
  | _ => none

/-- The error of a tree. -/
def ErrorObject.ofTree? (tree : Tree) : Option ErrorObject := do
  match ← parts? [["class"], ["data"]] tree with
  | [some className, data] => return ⟨← textPart? className, ← partOr [] membersPart? data⟩
  | _ => none

/-- The event message of a tree. -/
def EventMessage.ofTree? (tree : Tree) : Option EventMessage := do
  match ← parts? [["event"], ["timestamp"], ["data"], ["tag"]] tree with
  | [some event, some timestamp, data, tag] =>
    return ⟨← textPart? event, ← timestampPart? timestamp, ← partOr .null anyPart? data,
      (← optionalPart Json.word? tag).map Int64.ofInt⟩
  | _ => none

/-- The outcome that the first member of an object with one holds. -/
def Outcome.ofMembers? (members : List (Option String × Tree)) : Option Outcome := do
  match ← members.find? fun m => m.1 == some "return" || m.1 == some "error" with
  | (some "return", value) => return .result (← anyPart? value)
  | (_, value) => return .error (← ErrorObject.ofTree? value)

/-- The response of a tree, all of which must be well formed. -/
def Response.ofTree? (tree : Tree) : Option Response := do
  guard tree.value?.isSome
  match tree with
  | .object members =>
    match valuesOf ["id"] members with
    | [] => return ⟨← Outcome.ofMembers? members, none⟩
    | [id] => return ⟨← Outcome.ofMembers? members, ← optionalPart some (some id)⟩
    | _ => none
  | _ => none

/-- The message of a tree, all of which must be well formed: an event message if it is one. -/
def ServerMessage.ofTree? (tree : Tree) : Option ServerMessage := do
  guard tree.value?.isSome
  match EventMessage.ofTree? tree with
  | some message => return .event message
  | none => return .response (← Response.ofTree? tree)

/-! ### Text -/

/-- The text of a request. -/
def Request.text (request : Request) : String := request.toJson.compact

/-- The text of a response. -/
def Response.text (response : Response) : String := response.toJson.compact

/-- The text of an event message. -/
def EventMessage.text (message : EventMessage) : String := message.toJson.compact

/-- The request of a text. -/
def Request.parse? (text : String) : Option Request := do ofTree? (← Tree.parse? text)

/-- The error of a text. -/
def ErrorObject.parse? (text : String) : Option ErrorObject := do ofTree? (← Tree.parse? text)

/-- The response of a text. -/
def Response.parse? (text : String) : Option Response := do ofTree? (← Tree.parse? text)

/-- The event message of a text. -/
def EventMessage.parse? (text : String) : Option EventMessage := do ofTree? (← Tree.parse? text)

/-- The message of a text. -/
def ServerMessage.parse? (text : String) : Option ServerMessage := do ofTree? (← Tree.parse? text)

end RpcSchema
