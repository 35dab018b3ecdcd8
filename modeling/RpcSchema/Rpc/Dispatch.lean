import RpcSchema.Rpc.Diagnosis

/-!
# Dispatch of commands

The commands of a server by name, and what happens to a request. A command runs on the state of
the server. A synchronous one returns its result; a stateful one also knows the session of its
caller; an asynchronous one gets the number of a reply, which it may give at once, keep to give
later, or drop.

Every request that is submitted has a reply of its own, which keeps the identification that the
request came with until it is given, whatever else happens in between.

## Main definitions

* `Handler`, `Commands` — a command, and all commands by name
* `Reply`, `Desk` — the reply to one request, and a state with the replies of all
* `Desk.submit`, `Desk.complete`, `Desk.wait` — a request, a late result, and the response
* `Desk.submitLine`, `Desk.handleLine` — the same for text
-/

namespace RpcSchema

open Json (Members)

/-- What a command returns. -/
abbrev CallResult := Except RpcError Json

/-! ### Commands -/

/-- What an asynchronous command does about its reply before it returns. -/
inductive Promise
  | given (result : CallResult)
  | kept
  | dropped

/-- A command on states of the type `σ`. -/
inductive Handler (σ : Type)
  | sync (run : Members → σ → σ × CallResult)
  /-- an asynchronous command, which gets the number of its reply -/
  | async (run : Nat → Members → σ → σ × Promise)
  /-- a stateful command, which gets the number of the caller's session -/
  | stateful (run : Nat → Members → σ → σ × CallResult)

/-- The word for the kind of a command. -/
def Handler.word : Handler σ → String
  | .sync _ => "sync"
  | .async _ => "async"
  | .stateful _ => "stateful"

/-- The commands of a server, in the order they were registered. -/
abbrev Commands (σ : Type) := List (String × Handler σ)

/-- The commands with one more. A name that is known keeps its place and changes what it does. -/
def Commands.register (name : String) (handler : Handler σ) : Commands σ → Commands σ
  | [] => [(name, handler)]
  | (n, h) :: rest =>
    if n = name then (n, handler) :: rest else (n, h) :: Commands.register name handler rest

/-! ### Replies -/

/-- The reply to a request. -/
inductive Reply
  /-- one that can still be given, to a request with this identification -/
  | waiting (id : Option Json)
  | given (response : Response)
  /-- nobody is left who could give it -/
  | dropped

/-- A state with the replies to all requests so far, known by their numbers. -/
structure Desk (σ : Type) where
  state : σ
  replies : List Reply

/-- A request that was submitted. -/
inductive Pending
  /-- one that has its response already -/
  | ready (response : Response)
  | reply (number : Nat) (id : Option Json)

/-- The reply that an asynchronous command leaves behind. -/
def Promise.reply (id : Option Json) : Promise → Reply
  | .given result => .given (.ofResult result id)
  | .kept => .waiting id
  | .dropped => .dropped

/-- The state after a request, and its reply. -/
def Commands.run (commands : Commands σ) (session number : Nat) (request : Request) (state : σ) :
    σ × Reply :=
  match commands.lookup request.execute with
  | none => (state, .given (.ofResult (.error (.commandNotFound request.execute)) request.id))
  | some (.sync run) =>
    let (state, result) := run request.arguments state
    (state, .given (.ofResult result request.id))
  | some (.stateful run) =>
    let (state, result) := run session request.arguments state
    (state, .given (.ofResult result request.id))
  | some (.async run) =>
    let (state, promise) := run number request.arguments state
    (state, promise.reply request.id)

namespace Desk

/-- Runs a request, whose reply gets the next number. -/
def submit (desk : Desk σ) (commands : Commands σ) (session : Nat) (request : Request) :
    Desk σ × Pending :=
  let number := desk.replies.length
  let (state, reply) := commands.run session number request desk.state
  (⟨state, desk.replies ++ [reply]⟩, .reply number request.id)

/-- Settles a reply that can still be given; a reply is given once. -/
def settle (desk : Desk σ) (number : Nat) (outcome : Option Json → Reply) : Desk σ :=
  match desk.replies[number]? with
  | some (.waiting id) => { desk with replies := desk.replies.set number (outcome id) }
  | _ => desk

/-- Gives a reply. -/
def complete (desk : Desk σ) (number : Nat) (result : CallResult) : Desk σ :=
  desk.settle number fun id => .given (.ofResult result id)

/-- Drops a reply. -/
def abandon (desk : Desk σ) (number : Nat) : Desk σ := desk.settle number fun _ => .dropped

/-- The error of a command that dropped its reply. -/
def noReply : RpcError := .generic "GenericError" "Command completed without a reply"

/-- The response to a request, unless its reply can still be given. -/
def wait (desk : Desk σ) : Pending → Option Response
  | .ready response => some response
  | .reply number id =>
    match desk.replies[number]? with
    | some (.given response) => some response
    | some .dropped => some (.ofResult (.error noReply) id)
    | _ => none

/-! ### Text -/

/-- The error of a text that is no request, which says what is wrong with it. -/
def malformed (line : String) : RpcError :=
  .generic "JSONParsing" ("Invalid JSON syntax: " ++ Request.diagnosis line)

/-- Runs the request of a text. -/
def submitLine (desk : Desk σ) (commands : Commands σ) (session : Nat) (line : String) :
    Desk σ × Pending :=
  match Request.parse? line with
  | some request => desk.submit commands session request
  | none => (desk, .ready (.ofResult (.error (malformed line)) none))

/-- Runs the request of a text and gives the text of its response, unless that has to wait. -/
def handleLine (desk : Desk σ) (commands : Commands σ) (session : Nat) (line : String) :
    Desk σ × Option String :=
  let (desk, pending) := desk.submitLine commands session line
  (desk, (desk.wait pending).map Response.text)

end Desk

end RpcSchema
