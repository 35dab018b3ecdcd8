import RpcSchema.Proofs.Rpc.Wiring

/-!
# What happened at a hub

A run asks a hub for one operation after another and writes down what came of each, as the one who
asked saw it. From the writing alone follows what should be there at the end of the run: which
connections of a channel live, which handles a session holds, and what was delivered to it.

Writings are read from the latest happening back to the first.

## Main definitions

* `Operation`, `Happening`, `perform`, `run` — runs and what is written down
* `Link`, `live` — the connections of a channel that were made and have not ended
* `given`, `held` — the handles of a session: all that it gave, and those that are still held
* `limit?`, `delivered` — the limit of an open session, and what was delivered to it since it last
  took what waits

## Main results

* `run_induction` — what every operation keeps holds after every run
-/

namespace RpcSchema.Hub

/-! ### Runs -/

/-- Something that a hub is asked for. -/
inductive Operation
  | open (limit : Nat)
  | close (session : Nat)
  | negotiate (session : Nat) (negotiated : Bool)
  | subscribe (session channel : Nat)
  | unsubscribe (session : Nat) (tag : Int64)
  | emit (channel : Nat) (payload : Except RpcError Json)
  | drain (session : Nat)
  /-- connects an observer, which is told the number of its connection -/
  | attach (channel name : Nat)
  /-- ends the connection of an observer -/
  | detach (channel number : Nat)

/-- What came of an operation. -/
inductive Happening
  | opened (session limit : Nat)
  | closed (session : Nat)
  | subscribed (session channel tag : Nat)
  | unsubscribed (session tag : Nat)
  | emitted (channel : Nat) (payload : Except RpcError Json)
  | drained (session : Nat) (taken : List Delivery)
  | attached (channel number name : Nat)
  | detached (channel number : Nat)
  /-- nothing that concerns others -/
  | nothing

/-- What is connected with a channel, as the one who made the connection knows it. -/
inductive Link
  | subscription (session tag : Nat)
  | observer (number name : Nat)
  deriving DecidableEq

/-- The hub after an operation, and what came of it. -/
def perform (hub : Hub) : Operation → Hub × Happening
  | .open limit => (hub.open limit, .opened hub.nextSession limit)
  | .close n => (hub.close n, .closed n)
  | .negotiate n negotiated => (hub.setNegotiated n negotiated, .nothing)
  | .subscribe n c =>
    match hub.session? n, hub.channels[c]? with
    | some _, some _ => ((hub.subscribe n c).1, .subscribed n c (hub.subscribe n c).2)
    | _, _ => (hub, .nothing)
  | .unsubscribe n tag =>
    match hub.unsubscribe n tag with
    | (after, .ok ()) => (after, .unsubscribed n tag.toInt.toNat)
    | (after, .error _) => (after, .nothing)
  | .emit c payload => (hub.emit c payload, .emitted c payload)
  | .drain n => (hub.drained n, .drained n (hub.waiting n))
  | .attach c name =>
    match hub.channels[c]? with
    | some channel => (hub.attach c name, .attached c channel.signal.next name)
    | none => (hub, .nothing)
  | .detach c number =>
    if hub.hasObserver c number then (hub.detach c number, .detached c number) else (hub, .nothing)

/-- A hub with all that happened at it, the latest first. -/
structure Chronicle where
  hub : Hub
  past : List Happening

/-- A chronicle after one more operation. -/
def Chronicle.next (c : Chronicle) (op : Operation) : Chronicle :=
  ⟨(c.hub.perform op).1, (c.hub.perform op).2 :: c.past⟩

/-- What happens when a hub with channels for some events is asked for some operations. -/
def run (events : List String) (ops : List Operation) : Chronicle :=
  ops.foldl Chronicle.next ⟨.ofEvents events, []⟩

/-- What holds at first and is kept by every operation holds after every run. -/
theorem run_induction {P : Hub → List Happening → Prop} {events : List String}
    (hfirst : P (.ofEvents events) [])
    (hkept : ∀ hub past op, P hub past → P (hub.perform op).1 ((hub.perform op).2 :: past))
    (ops : List Operation) : P (run events ops).hub (run events ops).past := by
  have hfold : ∀ c : Chronicle, P c.hub c.past →
      P (ops.foldl Chronicle.next c).hub (ops.foldl Chronicle.next c).past := by
    induction ops with
    | nil => exact fun _ h => h
    | cons op rest ih => exact fun c h => ih (c.next op) (hkept c.hub c.past op h)
  exact hfold _ hfirst

/-! ### Negotiation -/

/-- A change to other parts of a session leaves what it has negotiated. -/
theorem isNegotiated_of_same (hub : Hub) (n : Nat) {change : Session → Session}
    (h : ∀ s, (change s).negotiated = s.negotiated) (m : Nat) :
    (hub.modifySession n change).isNegotiated m = hub.isNegotiated m := by
  rw [isNegotiated, session?_modifySession]
  split
  · rw [Option.map_map]
    exact congrArg (fun f => ((hub.session? m).map f).getD false) (funext h)
  · rfl

theorem isNegotiated_emit (hub : Hub) (c : Nat) (payload : Except RpcError Json) (m : Nat) :
    (hub.emit c payload).isNegotiated m = hub.isNegotiated m := by
  cases payload with
  | error error => rw [emit_error]
  | ok data =>
    rw [emit_ok]
    generalize hub.event c = event
    induction hub.targets c generalizing hub with
    | nil => rfl
    | cons target rest ih =>
      rw [List.foldl_cons, ih]
      cases target with
      | observer name => rfl
      | subscription n tag =>
        refine isNegotiated_of_same hub n ?_ m
        exact fun _ => rfl

/-- A session comes to have negotiated in no other way than by negotiating. -/
theorem isNegotiated_perform {hub : Hub} {op : Operation} {m : Nat}
    (h : (hub.perform op).1.isNegotiated m) :
    hub.isNegotiated m ∨ ∃ negotiated, op = .negotiate m negotiated := by
  cases op with
  | «open» limit =>
    rw [perform, isNegotiated, session?_open] at h
    split at h
    · cases h
    · exact .inl h
  | close n =>
    rw [perform, isNegotiated, session?_close] at h
    split at h
    · cases h
    · exact .inl h
  | negotiate n negotiated =>
    by_cases hn : n = m
    · exact .inr ⟨negotiated, hn ▸ rfl⟩
    · rw [perform, isNegotiated, setNegotiated, session?_modifySession, if_neg hn] at h
      exact .inl h
  | subscribe n c =>
    rw [perform] at h
    split at h
    · rename_i s channel hs hchannel
      have hsame : (hub.subscribe n c).1.isNegotiated m = hub.isNegotiated m := by
        rw [subscribe_fst hs hchannel, isNegotiated_of_same]
        · rfl
        · exact fun _ => rfl
      exact .inl (hsame ▸ h)
    · exact .inl h
  | unsubscribe n tag =>
    rw [perform, unsubscribe_eq] at h
    cases hfind : (hub.subscriptions n).find? fun x => (x.tag : Int) == tag.toInt with
    | none =>
      rw [hfind] at h
      exact .inl h
    | some x =>
      have hsame : (hub.release n x).isNegotiated m = hub.isNegotiated m := by
        refine isNegotiated_of_same hub n ?_ m
        exact fun _ => rfl
      rw [hfind] at h
      exact .inl (hsame ▸ h)
  | emit c payload => exact .inl (isNegotiated_emit hub c payload m ▸ h)
  | drain n =>
    have hsame : (hub.drained n).isNegotiated m = hub.isNegotiated m := by
      refine isNegotiated_of_same hub n ?_ m
      exact fun _ => rfl
    exact .inl (hsame ▸ h)
  | attach c name =>
    rw [perform] at h
    split at h <;> exact .inl h
  | detach c number =>
    rw [perform] at h
    split at h <;> exact .inl h

/-! ### Connections -/

/-- Whether a link is that of a session. -/
def Link.isOf (session : Nat) : Link → Bool
  | .subscription n _ => n == session
  | .observer _ _ => false

/-- Whether a link is that of an observer with some number. -/
def Link.isObserver (number : Nat) : Link → Bool
  | .subscription _ _ => false
  | .observer k _ => k == number

/-- The link of a connection. -/
def Link.of : Nat × Endpoint → Link
  | (_, .subscription n tag) => .subscription n tag
  | (number, .observer name) => .observer number name

/-- Whether a happening ends a link of a channel. -/
def Happening.ends (channel : Nat) (link : Link) : Happening → Bool
  | .closed n => link.isOf n
  | .unsubscribed n tag => link == .subscription n tag
  | .detached c number => c == channel && link.isObserver number
  | _ => false

/-- The links that a happening makes with a channel. -/
def Happening.made (channel : Nat) : Happening → List Link
  | .subscribed n c tag => if c = channel then [.subscription n tag] else []
  | .attached c number name => if c = channel then [.observer number name] else []
  | _ => []

/-- The links of a channel that were made and have not ended, in the order they were made. -/
def live (channel : Nat) : List Happening → List Link
  | [] => []
  | h :: earlier =>
    (live channel earlier).filter (fun link => !h.ends channel link) ++ h.made channel

/-! ### Handles -/

/-- The tag and channel of the subscription that a happening gave to a session. -/
def Happening.gave (session : Nat) : Happening → List (Nat × Nat)
  | .subscribed n c tag => if n = session then [(tag, c)] else []
  | _ => []

/-- Whether a happening takes a tag from a session. -/
def Happening.took (session tag : Nat) : Happening → Bool
  | .closed n => n == session
  | .unsubscribed n t => n == session && t == tag
  | _ => false

/-- All handles that a session gave, in that order. -/
def given (session : Nat) : List Happening → List (Nat × Nat)
  | [] => []
  | h :: earlier => given session earlier ++ h.gave session

/-- The handles that a session gave and has not taken back, in that order. -/
def held (session : Nat) : List Happening → List (Nat × Nat)
  | [] => []
  | h :: earlier =>
    (held session earlier).filter (fun handle => !h.took session handle.1) ++ h.gave session

/-! ### Deliveries -/

/-- The limit that a session was opened with, while it is open. -/
def limit? (session : Nat) : List Happening → Option Nat
  | [] => none
  | .opened n limit :: earlier => if n = session then some limit else limit? session earlier
  | .closed n :: earlier => if n = session then none else limit? session earlier
  | _ :: earlier => limit? session earlier

/-- The tag of a link of a session. -/
def Link.tag? (session : Nat) : Link → Option Nat
  | .subscription n tag => if n = session then some tag else none
  | .observer _ _ => none

theorem Link.tag?_eq_some {n tag : Nat} {link : Link} (h : link.tag? n = some tag) :
    link = .subscription n tag := by
  cases link with
  | observer number name => cases h
  | subscription m t =>
    rw [Link.tag?] at h
    split at h <;> cases h
    rename_i hm
    rw [hm]

/-- A happening ends the link of a handle if it takes the handle. -/
theorem Happening.ends_subscription (happening : Happening) (c n tag : Nat) :
    happening.ends c (.subscription n tag) = happening.took n tag := by
  cases happening with
  | closed m => exact BEq.comm
  | unsubscribed m t =>
    rw [Bool.eq_iff_iff, ends, took, beq_iff_eq, Link.subscription.injEq, Bool.and_eq_true,
      beq_iff_eq, beq_iff_eq, eq_comm, eq_comm (a := tag)]
  | detached d number => exact Bool.and_false _
  | _ => rfl

theorem Happening.filterMap_made (happening : Happening) (c n : Nat) :
    (happening.made c).filterMap (Link.tag? n) =
      ((happening.gave n).filter (·.2 == c)).map (·.1) := by
  cases happening with
  | subscribed m d tag =>
    by_cases hd : d = c <;> by_cases hm : m = n <;> simp [made, gave, Link.tag?, hd, hm]
  | attached d number name => by_cases hd : d = c <;> simp [made, gave, Link.tag?, hd]
  | _ => rfl

/-- A session is connected with a channel under the tags that it holds for the channel. -/
theorem filterMap_tag?_live (c n : Nat) (past : List Happening) :
    (live c past).filterMap (Link.tag? n) = ((held n past).filter (·.2 == c)).map (·.1) := by
  induction past with
  | nil => rfl
  | cons happening earlier ih =>
    rw [live, held, List.filterMap_append, List.filter_append, List.map_append,
      happening.filterMap_made]
    have hkept : ((live c earlier).filter fun link => !happening.ends c link).filterMap
        (Link.tag? n) =
          ((live c earlier).filterMap (Link.tag? n)).filter fun tag => !happening.took n tag := by
      rw [List.filterMap_filter, List.filter_filterMap]
      refine List.filterMap_congr fun link _ => ?_
      cases htag : link.tag? n with
      | none => simp
      | some tag =>
        rw [Link.tag?_eq_some htag, happening.ends_subscription, Option.filter_some]
    rw [hkept, ih, List.filter_map, List.filter_filter, List.filter_filter]
    refine congrArg (· ++ _) (congrArg (List.map _) ?_)
    exact List.filter_congr fun handle _ => Bool.and_comm _ _

/-- What was delivered to a session since it last took what waits: of each payload that has a JSON
form, one message for every link of the session that lived then. -/
def delivered (events : List String) (session : Nat) : List Happening → List Delivery
  | [] => []
  | .emitted c (.ok data) :: earlier =>
    delivered events session earlier ++
      ((live c earlier).filterMap (Link.tag? session)).map fun tag =>
        ⟨events[c]?.getD "", data, tag⟩
  | .drained n _ :: earlier => if n = session then [] else delivered events session earlier
  | _ :: earlier => delivered events session earlier

end RpcSchema.Hub
