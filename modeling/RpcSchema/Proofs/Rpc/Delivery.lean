import Mathlib.Data.List.DropRight
import RpcSchema.Proofs.Rpc.Bookkeeping

/-!
# Messages arrive as the past says

A session that takes what waits for it gets the newest of the messages that were delivered to it
since it last did, in order. How many these are at most is its limit. Which messages were delivered
is known from the past: each payload goes to all links that live when it is sent, in the order of
the links.

A queue that drops its oldest message when it is full holds the newest ones, so a queue need not be
followed message by message.

## Main definitions

* `Hub.mailbox?` — the limit of a session and what waits for it
* `Hub.Queued` — a hub whose queues are as its past says

## Main results

* `Session.foldl_push_rtake` — a bounded queue holds the newest messages
* `Hub.mailbox?_foldl_deliver` — what a payload does to the queue of a session
* `Hub.Queued.perform`, `Hub.queued_run` — an operation keeps queues as the past says, and so does
  every run
* `Hub.run_drain` — what a session gets when it takes what waits
-/

namespace RpcSchema

/-! ### Bounded queues -/

namespace Session

/-- The limit of a session and what waits for it. -/
def mailbox (s : Session) : Nat × List Delivery := (s.limit, s.queue)

/-- A mailbox with one more message waiting. -/
def push (box : Nat × List Delivery) (d : Delivery) : Nat × List Delivery :=
  (box.1, (if box.1 ≤ box.2.length then box.2.drop 1 else box.2) ++ [d])

theorem mailbox_enqueue (s : Session) (d : Delivery) : (s.enqueue d).mailbox = push s.mailbox d :=
  rfl

/-- A queue that holds the newest messages does so with one more. -/
theorem push_rtake {limit : Nat} (hlimit : 1 ≤ limit) (sent : List Delivery) (d : Delivery) :
    push (limit, sent.rtake limit) d = (limit, (sent ++ [d]).rtake limit) := by
  obtain ⟨k, rfl⟩ := Nat.exists_eq_add_of_le' hlimit
  have hkept : (if k + 1 ≤ (sent.rtake (k + 1)).length then (sent.rtake (k + 1)).drop 1
      else sent.rtake (k + 1)) = sent.rtake k := by
    rw [List.rtake, List.rtake, List.length_drop, List.drop_drop]
    split
    · congr 1
      omega
    · rw [Nat.sub_eq_zero_of_le (by omega), Nat.sub_eq_zero_of_le (by omega)]
  rw [push, hkept, List.rtake_concat_succ]

theorem foldl_push_rtake {limit : Nat} (hlimit : 1 ≤ limit) (sent more : List Delivery) :
    more.foldl push (limit, sent.rtake limit) = (limit, (sent ++ more).rtake limit) := by
  induction more generalizing sent with
  | nil => rw [List.append_nil, List.foldl_nil]
  | cons d rest ih =>
    rw [List.foldl_cons, push_rtake hlimit, ih, List.append_assoc, List.singleton_append]

end Session

/-- The tag under which a session is connected, if it is what is connected. -/
def Endpoint.tag? (session : Nat) : Endpoint → Option Nat
  | .subscription n tag => if n = session then some tag else none
  | .observer _ => none

namespace Hub

/-- The limit of a session and what waits for it. -/
def mailbox? (hub : Hub) (n : Nat) : Option (Nat × List Delivery) :=
  (hub.session? n).map Session.mailbox

theorem mailbox?_modifySession (hub : Hub) (n : Nat) (change : Session → Session) (m : Nat) :
    (hub.modifySession n change).mailbox? m =
      if n = m then (hub.session? m).map fun s => (change s).mailbox else hub.mailbox? m := by
  rw [mailbox?, session?_modifySession]
  split
  · rw [Option.map_map]
    rfl
  · rfl

/-- A change to other parts of a session leaves its mailbox. -/
theorem mailbox?_of_same (hub : Hub) (n : Nat) {change : Session → Session}
    (h : ∀ s, (change s).mailbox = s.mailbox) (m : Nat) :
    (hub.modifySession n change).mailbox? m = hub.mailbox? m := by
  rw [mailbox?_modifySession]
  simp only [h, mailbox?, ite_self]

/-- A payload reaches a session once for each tag that the session is connected under. -/
theorem mailbox?_foldl_deliver (hub : Hub) (event : String) (data : Json)
    (targets : List Endpoint) (m : Nat) :
    (targets.foldl (fun after target => after.deliver event data target) hub).mailbox? m =
      (hub.mailbox? m).map fun box =>
        ((targets.filterMap (Endpoint.tag? m)).map fun tag => ⟨event, data, tag⟩).foldl
          Session.push box := by
  induction targets generalizing hub with
  | nil => exact Option.map_id'.symm
  | cons target rest ih =>
    rw [List.foldl_cons, ih]
    cases target with
    | observer name => rfl
    | subscription n tag =>
      rw [deliver, mailbox?_modifySession, List.filterMap_cons, Endpoint.tag?]
      by_cases hm : n = m
      · simp only [if_pos hm, mailbox?, Option.map_map, Session.mailbox_enqueue]
        rfl
      · simp only [if_neg hm]

/-- A session that was never opened is connected nowhere. -/
theorem Wired.filterMap_tag? {hub : Hub} (h : hub.Wired) (c : Nat) {n : Nat}
    (hn : hub.nextSession ≤ n) : (hub.targets c).filterMap (Endpoint.tag? n) = [] := by
  refine List.filterMap_eq_nil_iff.mpr fun target htarget => ?_
  obtain ⟨⟨k, _⟩, hwire, rfl⟩ := List.mem_map.mp htarget
  rename_i target
  cases target with
  | observer name => rfl
  | subscription m t =>
    refine if_neg ?_
    rintro rfl
    obtain ⟨event, hmem⟩ := (h.linked c k m t).mp hwire
    obtain ⟨next, hledger⟩ := ledger_of_mem hmem
    obtain ⟨s, hs, -⟩ := Option.map_eq_some_iff.mp hledger
    exact absurd (lt_nextSession hs) (Nat.not_lt.mpr hn)

/-! ### Runs -/

/-- A hub whose queues are as its past says. -/
structure Queued (events : List String) (hub : Hub) (past : List Happening) : Prop where
  mailbox : ∀ n, hub.mailbox? n = (limit? n past).map fun limit =>
    (max limit 1, (delivered events n past).rtake (max limit 1))
  unopened : ∀ n, hub.nextSession ≤ n → delivered events n past = []

theorem queued_ofEvents (events : List String) : Queued events (ofEvents events) [] where
  mailbox n := by simp [mailbox?, session?, ofEvents, limit?]
  unopened n _ := rfl

namespace Queued

variable {events : List String} {hub : Hub} {past : List Happening} (h : Queued events hub past)

include h

/-- An operation that touches no queue keeps them all. -/
theorem of_same {other : Hub} {happening : Happening}
    (hmailbox : ∀ n, other.mailbox? n = hub.mailbox? n)
    (hsessions : other.nextSession = hub.nextSession)
    (hlimit : ∀ n, limit? n (happening :: past) = limit? n past)
    (hdelivered : ∀ n, delivered events n (happening :: past) = delivered events n past) :
    Queued events other (happening :: past) where
  mailbox n := by rw [hmailbox, hlimit, hdelivered, h.mailbox]
  unopened n hn := by
    rw [hdelivered]
    exact h.unopened n (hsessions ▸ hn)

theorem nothing : Queued events hub (.nothing :: past) :=
  h.of_same (fun _ => rfl) rfl (fun _ => rfl) fun _ => rfl

theorem «open» (limit : Nat) :
    Queued events (hub.open limit) (.opened hub.nextSession limit :: past) where
  mailbox n := by
    show ((hub.open limit).session? n).map _ =
      (if hub.nextSession = n then some limit else limit? n past).map fun limit =>
        (max limit 1, (delivered events n past).rtake (max limit 1))
    rw [session?_open]
    split
    · rename_i hn
      rw [h.unopened n (Nat.le_of_eq hn), Option.map_some, Option.map_some, List.rtake_nil]
      rfl
    · exact h.mailbox n
  unopened n hn := by
    rw [nextSession_open] at hn
    exact h.unopened n (Nat.le_of_succ_le hn)

theorem close (n : Nat) : Queued events (hub.close n) (.closed n :: past) where
  mailbox m := by
    show ((hub.close n).session? m).map _ =
      (if n = m then none else limit? m past).map fun limit =>
        (max limit 1, (delivered events m past).rtake (max limit 1))
    rw [session?_close]
    split
    · rfl
    · exact h.mailbox m
  unopened m hm := h.unopened m (nextSession_close hub n ▸ hm)

theorem drained (n : Nat) (taken : List Delivery) :
    Queued events (hub.drained n) (.drained n taken :: past) where
  mailbox m := by
    show _ = (limit? m past).map fun limit =>
      (max limit 1, (if n = m then [] else delivered events m past).rtake (max limit 1))
    rw [Hub.drained, mailbox?_modifySession]
    by_cases hm : n = m
    · have hlimit := congrArg (Option.map fun box => (box.1, ([] : List Delivery))) (h.mailbox m)
      rw [mailbox?, Option.map_map, Option.map_map] at hlimit
      simp only [if_pos hm, List.rtake_nil]
      exact hlimit
    · simp only [if_neg hm]
      exact h.mailbox m
  unopened m hm := by
    show (if n = m then [] else delivered events m past) = []
    split
    · rfl
    · exact h.unopened m (nextSession_modifySession hub n _ ▸ hm)

/-- A payload is delivered once for each link of a session that lives. -/
theorem emit (hbooked : Booked events hub past) (c : Nat) (payload : Except RpcError Json) :
    Queued events (hub.emit c payload) (.emitted c payload :: past) := by
  cases payload with
  | error error =>
    rw [emit_error]
    exact h.of_same (fun _ => rfl) rfl (fun _ => rfl) fun _ => rfl
  | ok data =>
    have hdelivered (n : Nat) : delivered events n (.emitted c (.ok data) :: past) =
        delivered events n past ++ ((hub.targets c).filterMap (Endpoint.tag? n)).map fun tag =>
          ⟨hub.event c, data, tag⟩ := by
      rw [delivered, ← hbooked.links, event, hbooked.channels, targets, List.filterMap_map,
        List.filterMap_map]
      have htag : Link.tag? n ∘ Link.of = Endpoint.tag? n ∘ Prod.snd := by
        funext link
        obtain ⟨k, target⟩ := link
        cases target <;> rfl
      rw [htag]
    constructor
    case mailbox =>
      intro n
      rw [hdelivered, emit_ok, mailbox?_foldl_deliver, h.mailbox]
      show _ = (limit? n past).map _
      rw [Option.map_map]
      cases limit? n past with
      | none => rfl
      | some limit =>
        exact congrArg some (Session.foldl_push_rtake (Nat.le_max_right limit 1) _ _)
    case unopened =>
      intro n hn
      rw [(alike_emit hub c _).nextSession] at hn
      rw [hdelivered, h.unopened n hn, hbooked.wired.filterMap_tag? c hn]
      rfl

/-- Any operation leaves the queues as its past says, of which it is then a part. -/
theorem perform (hbooked : Booked events hub past) (op : Operation) :
    Queued events (hub.perform op).1 ((hub.perform op).2 :: past) := by
  cases op with
  | «open» limit => exact h.open limit
  | close n => exact h.close n
  | negotiate n negotiated =>
    exact h.of_same (mailbox?_of_same hub n fun _ => rfl) (nextSession_modifySession hub n _)
      (fun _ => rfl) fun _ => rfl
  | subscribe n c =>
    rw [Hub.perform]
    split
    · rename_i s channel hs hchannel
      refine h.of_same (fun m => ?_) (nextSession_subscribe hs hchannel) (fun _ => rfl) fun _ => rfl
      rw [subscribe_fst hs hchannel, mailbox?_of_same]
      · rfl
      · exact fun _ => rfl
    · exact h.nothing
  | unsubscribe n tag =>
    rw [Hub.perform, unsubscribe_eq]
    cases hfind : (hub.subscriptions n).find? fun x => (x.tag : Int) == tag.toInt with
    | none => exact h.nothing
    | some x =>
      exact h.of_same (mailbox?_of_same hub n fun _ => rfl) (nextSession_release hub n x)
        (fun _ => rfl) fun _ => rfl
  | emit c payload => exact h.emit hbooked c payload
  | drain n => exact h.drained n _
  | attach c name =>
    rw [Hub.perform]
    split
    · exact h.of_same (fun _ => rfl) rfl (fun _ => rfl) fun _ => rfl
    · exact h.nothing
  | detach c number =>
    rw [Hub.perform]
    split
    · exact h.of_same (fun _ => rfl) rfl (fun _ => rfl) fun _ => rfl
    · exact h.nothing

end Queued

/-- After every run the queues are as its past says. -/
theorem queued_run (events : List String) (ops : List Operation) :
    Queued events (run events ops).hub (run events ops).past := by
  have hboth := run_induction (P := fun hub past => Booked events hub past ∧ Queued events hub past)
    ⟨booked_ofEvents events, queued_ofEvents events⟩
    (fun _ _ op h => ⟨h.1.perform op, h.2.perform h.1 op⟩) ops
  exact hboth.2

/-- After every run, an open session that takes what waits gets the newest messages of those that
were delivered to it since it last did, as many as its limit, and at least one if there are any. -/
theorem run_drain (events : List String) (ops : List Operation) (n : Nat) :
    let c := run events ops
    c.hub.perform (.drain n) = (c.hub.drained n, .drained n (((limit? n c.past).map fun limit =>
      (delivered events n c.past).rtake (max limit 1)).getD [])) := by
  have hwaiting : (run events ops).hub.waiting n =
      (((run events ops).hub.mailbox? n).map (·.2)).getD [] := by
    rw [waiting, mailbox?, Option.map_map]
    rfl
  refine Prod.ext rfl (congrArg (Happening.drained n) ?_)
  rw [hwaiting, (queued_run events ops).mailbox, Option.map_map]
  rfl

end Hub

end RpcSchema
