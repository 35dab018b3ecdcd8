import RpcSchema.Rpc.Envelope
import RpcSchema.Rpc.Signal

/-!
# Sessions and their subscriptions

A hub holds channels, each a signal that sends one kind of event, and sessions, each the server's
side of one client. A session subscribes to channels; every subscription has a tag that the
session never gives again, and a connection of the channel's signal. The two sides are kept
together: ending a subscription ends its connection, and closing a session ends all of them.

What is sent waits in the queue of a session until it is drained. A queue has a limit, at least
one, and drops its oldest message for a new one when it is full.

## Main definitions

* `Delivery`, `Subscription`, `Session` — one client's side
* `Channel`, `Endpoint` — an event with its signal, and what is connected to it
* `Hub` — channels and sessions
* `Hub.open`, `close`, `subscribe`, `unsubscribe`, `emit`, `drain` — the operations
-/

namespace RpcSchema

/-! ### Sessions -/

/-- An event on its way to a subscriber. Its time is left out, as nothing here depends on it; it is
given when the event becomes a message, by `Delivery.message`. -/
structure Delivery where
  event : String
  data : Json
  tag : Nat

/-- A subscription of a session: its tag, and the connection that it stands for. -/
structure Subscription where
  tag : Nat
  event : String
  channel : Nat
  connection : Nat
  deriving Repr, DecidableEq

/-- The server's side of one client. -/
structure Session where
  /-- whether the client has negotiated its capabilities -/
  negotiated : Bool
  nextTag : Nat
  /-- the subscriptions by increasing tag -/
  subscriptions : List Subscription
  /-- what waits to be drained, oldest first -/
  queue : List Delivery
  /-- the most messages that may wait -/
  limit : Nat

namespace Session

/-- The limit of a session that asks for none. -/
def defaultLimit : Nat := 1024

/-- A new session. Its queue has room for one message at least. -/
def new (limit : Nat) : Session := ⟨false, 0, [], [], max limit 1⟩

/-- The session with one more message waiting; a full queue drops its oldest. -/
def enqueue (s : Session) (d : Delivery) : Session :=
  { s with queue := (if s.limit ≤ s.queue.length then s.queue.drop 1 else s.queue) ++ [d] }

/-- The tags of the subscriptions with the names of their events. -/
def active (s : Session) : List (Nat × String) := s.subscriptions.map fun x => (x.tag, x.event)

end Session

/-! ### Channels -/

/-- What is connected to the signal of a channel. -/
inductive Endpoint
  /-- a subscription of a session -/
  | subscription (session tag : Nat)
  /-- something outside of all sessions -/
  | observer (name : Nat)
  deriving Repr, DecidableEq

/-- An event and the signal that sends it. -/
structure Channel where
  event : String
  signal : Signal Endpoint

/-! ### Hubs -/

/-- Channels and sessions, each known by its number. A closed session leaves its number empty. -/
structure Hub where
  channels : List Channel
  sessions : List (Option Session)

namespace Hub

/-- A hub with a channel for each event. -/
def ofEvents (events : List String) : Hub := ⟨events.map (⟨·, .empty⟩), []⟩

/-- The session of a number. -/
def session? (hub : Hub) (n : Nat) : Option Session := hub.sessions[n]?.join

/-- The hub with a session changed. -/
def modifySession (hub : Hub) (n : Nat) (change : Session → Session) : Hub :=
  { hub with sessions := hub.sessions.modify n (·.map change) }

/-- The hub with the signal of a channel changed. -/
def modifySignal (hub : Hub) (n : Nat) (change : Signal Endpoint → Signal Endpoint) : Hub :=
  { hub with channels := hub.channels.modify n fun c => { c with signal := change c.signal } }

/-! ### Sessions -/

/-- The number of the next session. -/
def nextSession (hub : Hub) : Nat := hub.sessions.length

/-- The hub with one more session, which gets the next number. -/
def «open» (hub : Hub) (limit : Nat) : Hub :=
  { hub with sessions := hub.sessions ++ [some (Session.new limit)] }

/-- Whether a session has negotiated. -/
def isNegotiated (hub : Hub) (n : Nat) : Bool := ((hub.session? n).map (·.negotiated)).getD false

/-- The hub with what a session has negotiated. -/
def setNegotiated (hub : Hub) (n : Nat) (negotiated : Bool) : Hub :=
  hub.modifySession n fun s => { s with negotiated }

/-- The hub without the connection of a subscription. -/
def disconnect (hub : Hub) (s : Subscription) : Hub :=
  hub.modifySignal s.channel (·.disconnect s.connection)

/-- The hub without a session, whose subscriptions end with it. -/
def close (hub : Hub) (n : Nat) : Hub :=
  match hub.session? n with
  | none => hub
  | some s =>
    let hub := s.subscriptions.foldl disconnect hub
    { hub with sessions := hub.sessions.set n none }

/-! ### Subscriptions -/

/-- The hub after a session subscribed to a channel, and the tag of the subscription. Without
that session or channel nothing happens. -/
def subscribe (hub : Hub) (n channel : Nat) : Hub × Nat :=
  match hub.session? n, hub.channels[channel]? with
  | some s, some c =>
    let subscription : Subscription := ⟨s.nextTag, c.event, channel, c.signal.next⟩
    let connected := hub.modifySignal channel (·.connect (.subscription n s.nextTag))
    (connected.modifySession n fun s =>
      { s with nextTag := s.nextTag + 1, subscriptions := s.subscriptions ++ [subscription] },
      s.nextTag)
  | _, _ => (hub, 0)

/-- The error for a tag that is not active. -/
def inactiveTag : RpcError := .invalidValue "tag" "an active event handle"

/-- The hub after a session gave up the subscription of a tag, which must be active. -/
def unsubscribe (hub : Hub) (n : Nat) (tag : Int64) : Hub × Except RpcError Unit :=
  let removed := hub.modifySession n fun s =>
    { s with subscriptions := s.subscriptions.filter fun x => (x.tag : Int) != tag.toInt }
  match (hub.session? n).bind
    fun s => s.subscriptions.find? fun x => (x.tag : Int) == tag.toInt with
  | some x => (removed.disconnect x, .ok ())
  | none => (removed, .error inactiveTag)

/-! ### Events -/

/-- The hub after an endpoint got an event. -/
def deliver (hub : Hub) (event : String) (data : Json) : Endpoint → Hub
  | .subscription n tag => hub.modifySession n (·.enqueue ⟨event, data, tag⟩)
  | .observer _ => hub

/-- The hub after a channel sent a payload. One that has no JSON form is sent to nobody. -/
def emit (hub : Hub) (channel : Nat) (payload : Except RpcError Json) : Hub :=
  match hub.channels[channel]?, payload with
  | some c, .ok data => c.signal.emit (fun hub target => hub.deliver c.event data target) hub
  | _, _ => hub

/-- What waits for a session. -/
def waiting (hub : Hub) (n : Nat) : List Delivery := ((hub.session? n).map (·.queue)).getD []

/-- The hub after a session took what waits for it. -/
def drained (hub : Hub) (n : Nat) : Hub := hub.modifySession n fun s => { s with queue := [] }

/-- The number of connections of a channel. -/
def connections (hub : Hub) (channel : Nat) : Nat :=
  ((hub.channels[channel]?).map (·.signal.size)).getD 0

/-- The active subscriptions of a session. -/
def active (hub : Hub) (n : Nat) : List (Nat × String) :=
  ((hub.session? n).map Session.active).getD []

end Hub

/-- A delivery as a message of a given time. -/
def Delivery.message (d : Delivery) (now : Timestamp) : EventMessage :=
  ⟨d.event, now, d.data, some (Int64.ofNat d.tag)⟩

end RpcSchema
