import Mathlib.Data.List.Nodup
import RpcSchema.Rpc.Hub

/-!
# The two sides of a subscription

A subscription stands in two places: its session has it under its tag, and its channel has a
connection for it under a number. Every operation on the one has to be done on the other as well.
The operations are described here by what they leave in both places, and then it is shown that the
two places always agree.

A hub is looked at through a few views. What an operation does to each of them is said once; later
statements do not look into the hub.

## Main definitions

* `Hub.wires`, `Hub.subscriptions`, `Hub.ledger?` — views of channels and sessions
* `Hub.Alike` — hubs with the same views
* `Hub.Wired` — every subscription is a connection, and the other way round

## Main results

* `Signal.Numbered` — the numbers of connections are distinct, and never given again
* `Hub.ledger?_subscribe`, `Hub.wires_subscribe`, … — what operations do to the views
* `Hub.Wired.subscribe`, `Hub.Wired.close`, … — what operations keep
-/

namespace RpcSchema

/-! ### Numbers of connections -/

namespace Signal

variable {C : Type} {s : Signal C}

/-- The connections of a signal have numbers of their own, all of them given by the signal. -/
structure Numbered (s : Signal C) : Prop where
  nodup : (s.connections.map (·.1)).Nodup
  lt_next : ∀ x ∈ s.connections, x.1 < s.next

theorem numbered_empty : (empty : Signal C).Numbered := ⟨.nil, nofun⟩

theorem Numbered.connect (h : s.Numbered) (target : C) : (s.connect target).Numbered where
  nodup := by
    rw [Signal.connect, List.map_append, List.nodup_append]
    refine ⟨h.nodup, by simp, fun k hk next hnext => ?_⟩
    obtain ⟨x, hx, rfl⟩ := List.mem_map.mp hk
    have hlt := h.lt_next x hx
    rw [List.map_singleton, List.mem_singleton] at hnext
    omega
  lt_next x hx := by
    rcases List.mem_append.mp hx with hx | hx
    · exact Nat.lt_succ_of_lt (h.lt_next x hx)
    · rw [List.mem_singleton.mp hx]
      exact Nat.lt_succ_self _

theorem Numbered.disconnect (h : s.Numbered) (number : Nat) : (s.disconnect number).Numbered where
  nodup := h.nodup.sublist (List.filter_sublist.map _)
  lt_next x hx := h.lt_next x (List.mem_of_mem_filter hx)

theorem Numbered.eq_of_number (h : s.Numbered) {x y : Nat × C} (hx : x ∈ s.connections)
    (hy : y ∈ s.connections) (hnumber : x.1 = y.1) : x = y :=
  List.inj_on_of_nodup_map h.nodup hx hy hnumber

end Signal

/-! ### Views of a hub -/

/-- Whether a subscription stands for a connection of a channel. -/
def Subscription.isAt (x : Subscription) (channel connection : Nat) : Bool :=
  x.channel == channel && x.connection == connection

theorem Subscription.isAt_iff {x : Subscription} {channel connection : Nat} :
    x.isAt channel connection ↔ x.channel = channel ∧ x.connection = connection := by
  simp [isAt]

namespace Hub

variable (hub : Hub) (n c : Nat)

/-- The connections of a channel. -/
def wires : List (Nat × Endpoint) := ((hub.channels[c]?).map (·.signal.connections)).getD []

/-- What is connected to a channel, in the order of the connections. -/
def targets : List Endpoint := (hub.wires c).map (·.2)

/-- The events of all channels. -/
def events : List String := hub.channels.map (·.event)

/-- The event of a channel. -/
def event : String := hub.events[c]?.getD ""

/-- The subscriptions of a session. -/
def subscriptions : List Subscription := ((hub.session? n).map (·.subscriptions)).getD []

/-- What a session knows about its tags: the next one, and its subscriptions. -/
def ledger? : Option (Nat × List Subscription) :=
  (hub.session? n).map fun s => (s.nextTag, s.subscriptions)

variable {hub n c}

theorem subscriptions_eq : hub.subscriptions n = ((hub.ledger? n).map (·.2)).getD [] := by
  rw [subscriptions, ledger?, Option.map_map]
  rfl

theorem subscriptions_of_ledger {next : Nat} {subscriptions : List Subscription}
    (h : hub.ledger? n = some (next, subscriptions)) : hub.subscriptions n = subscriptions := by
  rw [subscriptions_eq, h]
  rfl

theorem ledger_of_mem {x : Subscription} (h : x ∈ hub.subscriptions n) :
    ∃ next, hub.ledger? n = some (next, hub.subscriptions n) := by
  rw [subscriptions] at h ⊢
  rw [ledger?]
  cases hs : hub.session? n with
  | none => simp [hs] at h
  | some s => exact ⟨s.nextTag, rfl⟩

theorem lt_nextSession {s : Session} (h : hub.session? n = some s) : n < hub.nextSession := by
  rw [session?, Option.join_eq_some_iff] at h
  exact (List.getElem?_eq_some_iff.mp h).1

variable (hub n c)

/-! #### Changes of one part -/

theorem session?_modifySession (change : Session → Session) (m : Nat) :
    (hub.modifySession n change).session? m =
      if n = m then (hub.session? m).map change else hub.session? m := by
  rw [session?, session?, modifySession, List.getElem?_modify]
  by_cases h : n = m
  · simp only [if_pos h]
    cases hub.sessions[m]? <;> rfl
  · simp only [if_neg h, id_map']

/-- A change that keeps the session keeps the hub. -/
theorem modifySession_eq_self {change : Session → Session}
    (h : ∀ s, hub.session? n = some s → change s = s) : hub.modifySession n change = hub := by
  refine congrArg (Hub.mk hub.channels) (List.ext_getElem? fun m => ?_)
  rw [List.getElem?_modify]
  split
  · rename_i hm
    subst hm
    cases hslot : hub.sessions[n]? with
    | none => rfl
    | some slot =>
      cases slot with
      | none => rfl
      | some s =>
        have hs : hub.session? n = some s := by rw [session?, hslot, Option.join_some]
        exact congrArg (some ∘ some) (h s hs)
  · exact Option.map_id'

theorem nextSession_modifySession (change : Session → Session) :
    (hub.modifySession n change).nextSession = hub.nextSession :=
  List.length_modify ..

theorem wires_modifySignal (change : Signal Endpoint → Signal Endpoint) (d : Nat) :
    (hub.modifySignal c change).wires d =
      if c = d then ((hub.channels[d]?).map fun ch => (change ch.signal).connections).getD []
      else hub.wires d := by
  rw [wires, wires, modifySignal, List.getElem?_modify]
  by_cases h : c = d
  · simp only [if_pos h]
    cases hub.channels[d]? <;> rfl
  · simp only [if_neg h, id_map']

theorem events_modifySignal (change : Signal Endpoint → Signal Endpoint) :
    (hub.modifySignal c change).events = hub.events := by
  refine List.ext_getElem? fun d => ?_
  rw [events, events, modifySignal, List.getElem?_map, List.getElem?_map, List.getElem?_modify]
  cases hub.channels[d]? with
  | none => rfl
  | some channel =>
    simp only [Option.map_eq_map, Option.map_some]
    split <;> rfl

/-! #### Observers -/

/-- The hub with something outside of all sessions connected to a channel. -/
def attach (name : Nat) : Hub := hub.modifySignal c (·.connect (.observer name))

/-- The hub without a connection of a channel. -/
def detach (number : Nat) : Hub := hub.modifySignal c (·.disconnect number)

/-- Whether a connection leads outside of all sessions. -/
def hasObserver (number : Nat) : Bool :=
  (hub.wires c).any fun y => y.1 == number && y.2 matches .observer _

theorem hasObserver_iff {hub : Hub} {c number : Nat} :
    hub.hasObserver c number ↔ ∃ name, (number, .observer name) ∈ hub.wires c := by
  rw [hasObserver, List.any_eq_true]
  constructor
  · rintro ⟨⟨k, target⟩, hmem, h⟩
    cases target with
    | subscription n t => simp at h
    | observer name =>
      simp only [Bool.and_true, beq_iff_eq] at h
      exact ⟨name, h ▸ hmem⟩
  · rintro ⟨name, hmem⟩
    exact ⟨_, hmem, by simp⟩

theorem wires_connect {hub : Hub} {c : Nat} {channel : Channel}
    (hchannel : hub.channels[c]? = some channel) (target : Endpoint) (d : Nat) :
    (hub.modifySignal c (·.connect target)).wires d =
      hub.wires d ++ if c = d then [(channel.signal.next, target)] else [] := by
  rw [wires_modifySignal]
  by_cases h : c = d
  · subst h
    rw [if_pos rfl, if_pos rfl, hchannel, wires, hchannel]
    rfl
  · rw [if_neg h, if_neg h, List.append_nil]

theorem wires_detach (number d : Nat) : (hub.detach c number).wires d =
    (hub.wires d).filter fun y => !(c == d && y.1 == number) := by
  rw [detach, wires_modifySignal]
  by_cases h : c = d
  · subst h
    rw [if_pos rfl, wires]
    cases hub.channels[c]? with
    | none => rfl
    | some channel =>
      refine List.filter_congr fun y _ => ?_
      rw [beq_self_eq_true, Bool.true_and, bne]
  · rw [if_neg h]
    refine (List.filter_eq_self.mpr fun y _ => ?_).symm
    simp [h]

/-! #### Opened and closed sessions -/

theorem wires_disconnect (x : Subscription) :
    (hub.disconnect x).wires c = (hub.wires c).filter fun y => !x.isAt c y.1 := by
  refine (wires_detach hub x.channel x.connection c).trans (List.filter_congr fun y _ => ?_)
  rw [Subscription.isAt, BEq.comm (a := y.1)]

theorem session?_open (limit m : Nat) : (hub.open limit).session? m =
    if hub.nextSession = m then some (.new limit) else hub.session? m := by
  rw [session?, session?, «open», nextSession, List.getElem?_append]
  by_cases hlt : m < hub.sessions.length
  · rw [if_pos hlt, if_neg (by omega)]
  · rw [if_neg hlt]
    by_cases heq : hub.sessions.length = m
    · subst heq
      simp
    · rw [if_neg heq, List.getElem?_eq_none (by simp; omega), List.getElem?_eq_none (by omega)]

theorem nextSession_open (limit : Nat) : (hub.open limit).nextSession = hub.nextSession + 1 :=
  List.length_append

theorem ledger?_open (limit m : Nat) : (hub.open limit).ledger? m =
    if hub.nextSession = m then some (0, []) else hub.ledger? m := by
  rw [ledger?, session?_open]
  split <;> rfl

theorem subscriptions_open (limit m : Nat) :
    (hub.open limit).subscriptions m = hub.subscriptions m := by
  rw [subscriptions_eq, ledger?_open]
  by_cases hm : hub.nextSession = m
  · rw [if_pos hm, subscriptions, session?, List.getElem?_eq_none (Nat.le_of_eq hm)]
    rfl
  · rw [if_neg hm, ← subscriptions_eq]

theorem wires_foldl_disconnect (subscriptions : List Subscription) :
    (subscriptions.foldl disconnect hub).wires c =
      (hub.wires c).filter fun y => !subscriptions.any (·.isAt c y.1) := by
  induction subscriptions generalizing hub with
  | nil => simp
  | cons x rest ih =>
    rw [List.foldl_cons, ih, wires_disconnect, List.filter_filter]
    refine List.filter_congr fun y _ => ?_
    rw [List.any_cons, Bool.not_or, Bool.and_comm]

theorem sessions_foldl_disconnect (subscriptions : List Subscription) :
    (subscriptions.foldl disconnect hub).sessions = hub.sessions := by
  induction subscriptions generalizing hub with
  | nil => rfl
  | cons x rest ih => exact ih (hub.disconnect x)

theorem events_foldl_disconnect (subscriptions : List Subscription) :
    (subscriptions.foldl disconnect hub).events = hub.events := by
  induction subscriptions generalizing hub with
  | nil => rfl
  | cons x rest ih => exact (ih (hub.disconnect x)).trans (events_modifySignal hub x.channel _)

theorem events_close : (hub.close n).events = hub.events := by
  rw [close]
  split
  · rfl
  · exact events_foldl_disconnect hub _

/-- Closing a session takes its subscriptions out of all channels. -/
theorem wires_close :
    (hub.close n).wires c =
      (hub.wires c).filter fun y => !(hub.subscriptions n).any (·.isAt c y.1) := by
  rw [close, subscriptions]
  cases hub.session? n with
  | none => simp
  | some s => exact wires_foldl_disconnect hub c s.subscriptions

theorem session?_close (m : Nat) :
    (hub.close n).session? m = if n = m then none else hub.session? m := by
  rw [close]
  cases hs : hub.session? n with
  | none =>
    by_cases h : n = m
    · rw [if_pos h, ← h]
      exact hs
    · rw [if_neg h]
  | some s =>
    show ((s.subscriptions.foldl disconnect hub).sessions.set n none)[m]?.join = _
    rw [sessions_foldl_disconnect, List.getElem?_set]
    by_cases h : n = m
    · rw [if_pos h, if_pos h]
      split <;> rfl
    · rw [if_neg h, if_neg h, session?]

theorem nextSession_close : (hub.close n).nextSession = hub.nextSession := by
  rw [close]
  split
  · rfl
  · refine List.length_set.trans (congrArg _ ?_)
    exact sessions_foldl_disconnect hub _

theorem ledger?_close (m : Nat) :
    (hub.close n).ledger? m = if n = m then none else hub.ledger? m := by
  rw [ledger?, session?_close]
  split <;> rfl

theorem subscriptions_close (m : Nat) :
    (hub.close n).subscriptions m = if n = m then [] else hub.subscriptions m := by
  rw [subscriptions_eq, ledger?_close]
  split
  · rfl
  · rw [← subscriptions_eq]

/-! #### Subscriptions -/

/-- The hub without a subscription, on both sides. -/
def release (x : Subscription) : Hub :=
  (hub.modifySession n fun s =>
    { s with subscriptions := s.subscriptions.filter (·.tag != x.tag) }).disconnect x

/-- Of the subscriptions of a session, only one that has a tag is taken away with it. -/
theorem modifySession_remove {tag : Int64} {x : Subscription} (h : (x.tag : Int) = tag.toInt) :
    (hub.modifySession n fun s =>
      { s with subscriptions := s.subscriptions.filter fun y => (y.tag : Int) != tag.toInt }) =
    hub.modifySession n fun s =>
      { s with subscriptions := s.subscriptions.filter (·.tag != x.tag) } := by
  have hsame : (fun y : Subscription => (y.tag : Int) != tag.toInt) = (·.tag != x.tag) := by
    funext y
    rw [← h, Bool.eq_iff_iff, bne_iff_ne, bne_iff_ne, ne_eq, Int.natCast_inj]
  rw [hsame]

/-- A subscription is ended if its tag is that of one, and otherwise none is. -/
theorem unsubscribe_eq (tag : Int64) : hub.unsubscribe n tag =
    match (hub.subscriptions n).find? fun x => (x.tag : Int) == tag.toInt with
    | some x => (hub.release n x, .ok ())
    | none => (hub, .error inactiveTag) := by
  rw [unsubscribe, subscriptions]
  cases hsession : hub.session? n with
  | none =>
    refine congrArg (·, _) (modifySession_eq_self hub n fun s hs => ?_)
    cases hsession.symm.trans hs
  | some s =>
    simp only [Option.bind_some, Option.map_some, Option.getD_some]
    cases hfind : s.subscriptions.find? fun x => (x.tag : Int) == tag.toInt with
    | none =>
      refine congrArg (·, _) (modifySession_eq_self hub n fun other hother => ?_)
      obtain rfl := Option.some.inj (hsession.symm.trans hother)
      have hall : s.subscriptions.filter (fun x => (x.tag : Int) != tag.toInt) = s.subscriptions :=
        List.filter_eq_self.mpr fun x hx => by simpa using List.find?_eq_none.mp hfind x hx
      rw [hall]
    | some x =>
      have htag : (x.tag : Int) = tag.toInt := by simpa using List.find?_some hfind
      exact congrArg (fun removed : Hub => (removed.disconnect x, _))
        (modifySession_remove hub n htag)

/-- Where no subscription is ended, the hub is as before. -/
theorem unsubscribe_of_error {hub : Hub} {n : Nat} {tag : Int64} {error : RpcError}
    (h : (hub.unsubscribe n tag).2 = .error error) :
    hub.unsubscribe n tag = (hub, .error inactiveTag) := by
  rw [unsubscribe_eq] at h ⊢
  cases hfind : (hub.subscriptions n).find? fun x => (x.tag : Int) == tag.toInt with
  | none => rfl
  | some x =>
    rw [hfind] at h
    cases h

theorem nextSession_release (x : Subscription) : (hub.release n x).nextSession = hub.nextSession :=
  nextSession_modifySession hub n _

theorem ledger?_release (x : Subscription) (m : Nat) : (hub.release n x).ledger? m =
    if n = m then (hub.ledger? m).map fun l => (l.1, l.2.filter (·.tag != x.tag))
    else hub.ledger? m := by
  rw [ledger?, ledger?]
  show (((hub.modifySession n _).session? m).map _ : Option (Nat × List Subscription)) = _
  rw [session?_modifySession]
  by_cases h : n = m
  · rw [if_pos h, if_pos h, Option.map_map, Option.map_map]
    rfl
  · rw [if_neg h, if_neg h]

theorem subscriptions_release (x : Subscription) (m : Nat) : (hub.release n x).subscriptions m =
    if n = m then (hub.subscriptions m).filter (·.tag != x.tag) else hub.subscriptions m := by
  rw [subscriptions_eq, ledger?_release, subscriptions_eq]
  split
  · cases hub.ledger? m <;> rfl
  · rfl

theorem wires_release (x : Subscription) :
    (hub.release n x).wires c = (hub.wires c).filter fun y => !x.isAt c y.1 :=
  wires_disconnect _ c x

section

variable {hub : Hub} {n c : Nat} {s : Session} {channel : Channel} (hs : hub.session? n = some s)
  (hchannel : hub.channels[c]? = some channel)

include hs hchannel

/-- A subscription is noted last by its channel and by its session. -/
theorem subscribe_fst : (hub.subscribe n c).1 =
    (hub.modifySignal c (·.connect (.subscription n s.nextTag))).modifySession n fun old =>
      { old with
        nextTag := old.nextTag + 1
        subscriptions :=
          old.subscriptions ++ [⟨s.nextTag, channel.event, c, channel.signal.next⟩] } := by
  rw [subscribe, hs, hchannel]

theorem subscribe_snd : (hub.subscribe n c).2 = s.nextTag := by
  rw [subscribe, hs, hchannel]

theorem events_subscribe : (hub.subscribe n c).1.events = hub.events := by
  rw [subscribe_fst hs hchannel]
  exact events_modifySignal hub c (·.connect (.subscription n s.nextTag))

theorem nextSession_subscribe : (hub.subscribe n c).1.nextSession = hub.nextSession := by
  rw [subscribe_fst hs hchannel, nextSession_modifySession]
  rfl

theorem ledger?_subscribe (m : Nat) : (hub.subscribe n c).1.ledger? m =
    if n = m then
      some (s.nextTag + 1,
        s.subscriptions ++ [⟨s.nextTag, channel.event, c, channel.signal.next⟩])
    else hub.ledger? m := by
  rw [subscribe_fst hs hchannel, ledger?, session?_modifySession]
  by_cases h : n = m
  · subst h
    rw [if_pos rfl, if_pos rfl]
    show ((hub.session? n).map _).map _ = _
    rw [hs]
    rfl
  · rw [if_neg h, if_neg h]
    rfl

theorem subscriptions_subscribe (m : Nat) : (hub.subscribe n c).1.subscriptions m =
    hub.subscriptions m ++
      if n = m then [⟨s.nextTag, channel.event, c, channel.signal.next⟩] else [] := by
  rw [subscriptions_eq, ledger?_subscribe hs hchannel]
  by_cases h : n = m
  · subst h
    rw [if_pos rfl, if_pos rfl, subscriptions, hs]
    rfl
  · rw [if_neg h, if_neg h, List.append_nil, ← subscriptions_eq]

theorem wires_subscribe (d : Nat) : (hub.subscribe n c).1.wires d =
    hub.wires d ++ if c = d then [(channel.signal.next, .subscription n s.nextTag)] else [] := by
  rw [subscribe_fst hs hchannel]
  exact wires_connect hchannel _ d

end

/-! ### Hubs that differ in their queues only -/

/-- Two hubs with the same channels, whose sessions have the same tags and subscriptions. -/
structure Alike (a b : Hub) : Prop where
  channels : a.channels = b.channels
  ledger : ∀ n, a.ledger? n = b.ledger? n
  nextSession : a.nextSession = b.nextSession

theorem Alike.refl (hub : Hub) : Alike hub hub := ⟨rfl, fun _ => rfl, rfl⟩

theorem Alike.trans {a b c : Hub} (hab : Alike a b) (hbc : Alike b c) : Alike a c :=
  ⟨hab.channels.trans hbc.channels, fun n => (hab.ledger n).trans (hbc.ledger n),
    hab.nextSession.trans hbc.nextSession⟩

theorem Alike.wires {a b : Hub} (h : Alike a b) (c : Nat) : a.wires c = b.wires c := by
  rw [Hub.wires, Hub.wires, h.channels]

theorem Alike.subscriptions {a b : Hub} (h : Alike a b) (n : Nat) :
    a.subscriptions n = b.subscriptions n := by
  rw [subscriptions_eq, subscriptions_eq, h.ledger]

theorem alike_modifySession {change : Session → Session}
    (h : ∀ s, (change s).nextTag = s.nextTag ∧ (change s).subscriptions = s.subscriptions) :
    Alike (hub.modifySession n change) hub where
  channels := rfl
  ledger m := by
    rw [ledger?, ledger?, session?_modifySession]
    split
    · cases hub.session? m with
      | none => rfl
      | some s => exact congrArg some (Prod.ext (h s).1 (h s).2)
    · rfl
  nextSession := nextSession_modifySession hub n change

theorem alike_deliver (event : String) (data : Json) (target : Endpoint) :
    Alike (hub.deliver event data target) hub := by
  cases target with
  | subscription n tag => exact alike_modifySession hub n fun s => ⟨rfl, rfl⟩
  | observer name => exact .refl hub

theorem emit_error (error : RpcError) : hub.emit c (.error error) = hub := by
  cases hc : hub.channels[c]? <;> simp only [emit, hc]

/-- A payload is delivered to what is connected, one after the other. -/
theorem emit_ok (data : Json) : hub.emit c (.ok data) =
    (hub.targets c).foldl (fun after target => after.deliver (hub.event c) data target) hub := by
  rw [targets, wires, event, events, List.getElem?_map]
  cases hc : hub.channels[c]? with
  | none => simp only [emit, hc, Option.map_none, Option.getD_none, List.map_nil, List.foldl_nil]
  | some channel =>
    simp only [emit, hc, Option.map_some, Option.getD_some, Signal.emit, Signal.targets]

theorem alike_emit (payload : Except RpcError Json) : Alike (hub.emit c payload) hub := by
  cases payload with
  | error error =>
    rw [emit_error]
    exact .refl hub
  | ok data =>
    rw [emit_ok]
    generalize hub.event c = event
    induction hub.targets c generalizing hub with
    | nil => exact .refl hub
    | cons target rest ih => exact (ih _).trans (alike_deliver hub event data target)

/-! ### Both sides of a subscription -/

/-- The connections of every channel are numbered. -/
def Numbered (hub : Hub) : Prop := ∀ channel ∈ hub.channels, channel.signal.Numbered

theorem Numbered.modifySignal {hub : Hub} (h : hub.Numbered) (c : Nat)
    {change : Signal Endpoint → Signal Endpoint}
    (hchange : ∀ s : Signal Endpoint, s.Numbered → (change s).Numbered) :
    (hub.modifySignal c change).Numbered := by
  intro channel hmem
  obtain ⟨d, hd⟩ := List.mem_iff_getElem?.mp hmem
  rw [Hub.modifySignal, List.getElem?_modify] at hd
  obtain ⟨old, hold, rfl⟩ := Option.map_eq_some_iff.mp hd
  have hnumbered := h old (List.mem_of_getElem? hold)
  split
  · exact hchange _ hnumbered
  · exact hnumbered

theorem Numbered.disconnect {hub : Hub} (h : hub.Numbered) (x : Subscription) :
    (hub.disconnect x).Numbered :=
  h.modifySignal x.channel fun _ hs => hs.disconnect x.connection

theorem Numbered.foldl_disconnect {hub : Hub} (h : hub.Numbered)
    (subscriptions : List Subscription) : (subscriptions.foldl Hub.disconnect hub).Numbered := by
  induction subscriptions generalizing hub with
  | nil => exact h
  | cons x rest ih => exact ih (h.disconnect x)

/-- Every subscription of a session is a connection of its channel, and the other way round. -/
structure Wired (hub : Hub) : Prop where
  numbered : hub.Numbered
  linked : ∀ c k n t, (k, .subscription n t) ∈ hub.wires c ↔
    ∃ event, ⟨t, event, c, k⟩ ∈ hub.subscriptions n
  tags : ∀ n next subscriptions, hub.ledger? n = some (next, subscriptions) →
    (subscriptions.map (·.tag)).Pairwise (· < ·) ∧ ∀ x ∈ subscriptions, x.tag < next

theorem wires_ofEvents (events : List String) (c : Nat) : (ofEvents events).wires c = [] := by
  rw [wires, ofEvents, List.getElem?_map]
  cases events[c]? <;> rfl

theorem wired_ofEvents (events : List String) : (ofEvents events).Wired where
  numbered channel hmem := by
    obtain ⟨event, -, rfl⟩ := List.mem_map.mp hmem
    exact Signal.numbered_empty
  linked c k n t := by
    rw [wires_ofEvents]
    simp [subscriptions, session?, ofEvents]
  tags n next subscriptions hledger := by
    simp [ledger?, session?, ofEvents] at hledger

namespace Wired

variable {hub : Hub} {n c : Nat} (h : hub.Wired)

include h

theorem of_alike {other : Hub} (halike : Alike other hub) : other.Wired where
  numbered channel hmem := h.numbered channel (halike.channels ▸ hmem)
  linked c k n t := by
    rw [halike.wires, halike.subscriptions]
    exact h.linked c k n t
  tags n := halike.ledger n ▸ h.tags n

theorem eq_of_number {x y : Nat × Endpoint} (hx : x ∈ hub.wires c) (hy : y ∈ hub.wires c)
    (hnumber : x.1 = y.1) : x = y := by
  rw [wires] at hx hy
  cases hc : hub.channels[c]? with
  | none => simp [hc] at hx
  | some channel =>
    rw [hc] at hx hy
    exact (h.numbered channel (List.mem_of_getElem? hc)).eq_of_number hx hy hnumber

theorem eq_of_tag {x y : Subscription} (hx : x ∈ hub.subscriptions n)
    (hy : y ∈ hub.subscriptions n) (htag : x.tag = y.tag) : x = y := by
  obtain ⟨next, hledger⟩ := ledger_of_mem hx
  have hnodup := (h.tags n _ _ hledger).1.imp Nat.ne_of_lt
  exact List.inj_on_of_nodup_map hnodup hx hy htag

/-- A connection is that of a subscription just if it leads to it. -/
theorem isAt_iff {x : Subscription} (hx : x ∈ hub.subscriptions n) {y : Nat × Endpoint}
    (hy : y ∈ hub.wires c) : x.isAt c y.1 ↔ y.2 = .subscription n x.tag := by
  obtain ⟨k, target⟩ := y
  rw [Subscription.isAt_iff]
  constructor
  · rintro ⟨rfl, rfl⟩
    have hwire := (h.linked x.channel x.connection n x.tag).mpr ⟨x.event, hx⟩
    exact congrArg Prod.snd (h.eq_of_number hy hwire rfl)
  · rintro rfl
    obtain ⟨event, hmem⟩ := (h.linked c k n x.tag).mp hy
    have heq := h.eq_of_tag hx hmem rfl
    exact ⟨congrArg Subscription.channel heq, congrArg Subscription.connection heq⟩

theorem «open» (limit : Nat) : (hub.open limit).Wired where
  numbered := h.numbered
  linked c k n t := by
    rw [subscriptions_open]
    exact h.linked c k n t
  tags n next subscriptions hledger := by
    rw [ledger?_open] at hledger
    split at hledger
    · cases hledger
      exact ⟨.nil, nofun⟩
    · exact h.tags n next subscriptions hledger

theorem close (n : Nat) : (hub.close n).Wired where
  numbered := by
    rw [Hub.close]
    split
    · exact h.numbered
    · exact h.numbered.foldl_disconnect _
  linked c k m t := by
    rw [wires_close, List.mem_filter, subscriptions_close, Bool.not_eq_true', List.any_eq_false]
    by_cases hm : n = m
    · subst hm
      rw [if_pos rfl]
      refine ⟨fun ⟨hwire, hnone⟩ => ?_, nofun⟩
      obtain ⟨event, hmem⟩ := (h.linked c k n t).mp hwire
      exact absurd (Subscription.isAt_iff.mpr ⟨rfl, rfl⟩) (hnone _ hmem)
    · rw [if_neg hm, ← h.linked]
      refine ⟨And.left, fun hwire => ⟨hwire, fun x hx hat => hm ?_⟩⟩
      have htarget := (h.isAt_iff hx hwire).mp hat
      cases htarget
      rfl
  tags m next subscriptions hledger := by
    rw [ledger?_close] at hledger
    split at hledger
    · cases hledger
    · exact h.tags m next subscriptions hledger

theorem release {x : Subscription} (hx : x ∈ hub.subscriptions n) :
    (hub.release n x).Wired where
  numbered := Numbered.disconnect h.numbered x
  linked c k m t := by
    rw [wires_release, List.mem_filter, subscriptions_release, Bool.not_eq_true']
    have hat (hwire : (k, .subscription m t) ∈ hub.wires c) :
        x.isAt c k = false ↔ ¬(m = n ∧ t = x.tag) := by
      rw [← Bool.not_eq_true, h.isAt_iff hx hwire, Endpoint.subscription.injEq]
    by_cases hm : n = m
    · subst hm
      rw [if_pos rfl]
      constructor
      · rintro ⟨hwire, hnot⟩
        obtain ⟨event, hmem⟩ := (h.linked c k n t).mp hwire
        refine ⟨event, List.mem_filter.mpr ⟨hmem, bne_iff_ne.mpr fun htag => ?_⟩⟩
        exact (hat hwire).mp hnot ⟨rfl, htag⟩
      · rintro ⟨event, hmem⟩
        obtain ⟨hmem, htag⟩ := List.mem_filter.mp hmem
        have hwire := (h.linked c k n t).mpr ⟨event, hmem⟩
        exact ⟨hwire, (hat hwire).mpr fun heq => bne_iff_ne.mp htag heq.2⟩
    · rw [if_neg hm, ← h.linked]
      exact ⟨And.left, fun hwire => ⟨hwire, (hat hwire).mpr fun heq => hm heq.1.symm⟩⟩
  tags m next subscriptions hledger := by
    rw [ledger?_release] at hledger
    split at hledger
    · obtain ⟨⟨_, old⟩, hold, heq⟩ := Option.map_eq_some_iff.mp hledger
      cases heq
      obtain ⟨hpairwise, hlt⟩ := h.tags m _ _ hold
      exact ⟨hpairwise.sublist (List.filter_sublist.map _),
        fun y hy => hlt y (List.mem_of_mem_filter hy)⟩
    · exact h.tags m next subscriptions hledger

theorem subscribe {s : Session} {channel : Channel} (hs : hub.session? n = some s)
    (hchannel : hub.channels[c]? = some channel) : (hub.subscribe n c).1.Wired where
  numbered := by
    rw [Hub.subscribe, hs, hchannel]
    exact Numbered.modifySignal h.numbered c fun _ hs => hs.connect _
  linked d k m t := by
    rw [wires_subscribe hs hchannel, subscriptions_subscribe hs hchannel]
    simp only [List.mem_append, exists_or, h.linked]
    refine or_congr Iff.rfl ?_
    by_cases hd : c = d <;> by_cases hm : n = m <;> simp [hd, hm, eq_comm, and_comm]
  tags m next subscriptions hledger := by
    rw [ledger?_subscribe hs hchannel] at hledger
    split at hledger
    · have hold : hub.ledger? n = some (s.nextTag, s.subscriptions) := by rw [ledger?, hs]; rfl
      obtain ⟨hpairwise, hlt⟩ := h.tags n _ _ hold
      cases hledger
      refine ⟨?_, fun x hx => ?_⟩
      · rw [List.map_append, List.pairwise_append]
        refine ⟨hpairwise, List.pairwise_singleton _ _, fun t ht next hnext => ?_⟩
        obtain ⟨x, hx, rfl⟩ := List.mem_map.mp ht
        rw [List.mem_singleton.mp hnext]
        exact hlt x hx
      · rcases List.mem_append.mp hx with hx | hx
        · exact Nat.lt_succ_of_lt (hlt x hx)
        · rw [List.mem_singleton.mp hx]
          exact Nat.lt_succ_self _
    · exact h.tags m next subscriptions hledger

theorem attach {channel : Channel} (hchannel : hub.channels[c]? = some channel) (name : Nat) :
    (hub.attach c name).Wired where
  numbered := Numbered.modifySignal h.numbered c fun _ hs => hs.connect _
  linked d k n t := by
    rw [Hub.attach, wires_connect hchannel, List.mem_append]
    refine Iff.trans ?_ (h.linked d k n t)
    refine or_iff_left ?_
    split <;> simp
  tags := h.tags

theorem detach {number : Nat} (hnumber : hub.hasObserver c number) :
    (hub.detach c number).Wired where
  numbered := Numbered.modifySignal h.numbered c fun _ hs => hs.disconnect number
  linked d k n t := by
    rw [wires_detach, List.mem_filter]
    refine Iff.trans ?_ (h.linked d k n t)
    refine and_iff_left_of_imp fun hwire => ?_
    rw [Bool.not_eq_true', Bool.and_eq_false_imp]
    intro hd
    obtain rfl := beq_iff_eq.mp hd
    obtain ⟨name, hobserver⟩ := hasObserver_iff.mp hnumber
    refine beq_eq_false_iff_ne.mpr fun hk => ?_
    cases h.eq_of_number hwire hobserver hk
  tags := h.tags

end Wired

end Hub

end RpcSchema
