import RpcSchema.Rpc.Dispatch
import RpcSchema.Rpc.Hub

/-!
# A transport within one process

A client and a server in one process talk as if a line lay between them: every request, response
and event goes through its text. A call is sent, and its result received when there is a response;
in between other things may happen.

## Main definitions

* `Transport.send`, `Transport.receive` — the two halves of a call
* `Transport.call` — a call whose response is there at once
* `Transport.events` — the events that wait for the client
-/

namespace RpcSchema.Transport

open Json (Members)

/-- The error of a text that is no message. -/
def malformed : RpcError := .generic "GenericError" "Malformed message: "

/-- Sends a call. -/
def send (desk : Desk σ) (commands : Commands σ) (session : Nat) (command : String)
    (arguments : Members) : Desk σ × Pending :=
  desk.submitLine commands session (Request.text ⟨command, arguments, none⟩)

/-- The result that the text of a response carries. -/
def resultOf (text : String) : CallResult :=
  match Response.parse? text with
  | some response => response.toResult
  | none => .error malformed

/-- Receives the result of a call, unless its reply can still be given. -/
def receive (desk : Desk σ) (pending : Pending) : Option CallResult :=
  (desk.wait pending).map fun response => resultOf response.text

/-- A call and its result, unless that has to wait. -/
def call (desk : Desk σ) (commands : Commands σ) (session : Nat) (command : String)
    (arguments : Members) : Desk σ × Option CallResult :=
  let (desk, pending) := send desk commands session command arguments
  (desk, receive desk pending)

/-- The event message of a text. -/
def eventOf (text : String) : Except RpcError EventMessage :=
  match EventMessage.parse? text with
  | some message => .ok message
  | none => .error malformed

/-- The events that wait for a session at a given time, each through its text. -/
def events (hub : Hub) (session : Nat) (now : Timestamp) : Except RpcError (List EventMessage) :=
  (hub.waiting session).mapM fun d => eventOf (d.message now).text

end RpcSchema.Transport
