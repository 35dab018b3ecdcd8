import RpcSchema.Proofs.Rpc.Chronicle

/-!
# Subscriptions are as the past says

Whatever was asked of a hub, the connections of its channels and the subscriptions of its sessions
are just those that were made and have not ended. One operation keeps this, so every run does.

Tags are given in order, so a session has given as many of them as its next tag says. This is what
makes a new tag new.

## Main definitions

* `Booked` — a hub whose subscriptions are as its past says

## Main results

* `Booked.perform` — an operation keeps a hub booked
* `booked_run` — every run does
* `run_bookkeeping` — connections, handles and tags after a run
-/

namespace RpcSchema.Hub

/-- A hub whose subscriptions are as its past says. -/
structure Booked (events : List String) (hub : Hub) (past : List Happening) : Prop where
  wired : hub.Wired
  channels : hub.events = events
  names : ∀ n, ∀ x ∈ hub.subscriptions n, x.event = events[x.channel]?.getD ""
  links : ∀ c, (hub.wires c).map Link.of = live c past
  holds : ∀ n, (hub.subscriptions n).map (fun x => (x.tag, x.channel)) = held n past
  tags : ∀ n, (given n past).map (·.1) = List.range (given n past).length
  next : ∀ n l, hub.ledger? n = some l → l.1 = (given n past).length
  unopened : ∀ n, hub.nextSession ≤ n → given n past = []

theorem booked_ofEvents (events : List String) : Booked events (ofEvents events) [] where
  wired := wired_ofEvents events
  channels := by
    rw [Hub.events, ofEvents, List.map_map]
    exact List.map_id events
  names n x hx := by simp [subscriptions, session?, ofEvents] at hx
  links c := by
    rw [wires_ofEvents]
    rfl
  holds n := by simp [subscriptions, session?, ofEvents, held]
  tags n := rfl
  next n l hl := by simp [ledger?, session?, ofEvents] at hl
  unopened n _ := rfl

theorem given_of_gave {happening : Happening} {n : Nat} {past : List Happening}
    (h : happening.gave n = []) : given n (happening :: past) = given n past := by
  rw [given, h, List.append_nil]

/-- A happening that neither makes nor ends a link. -/
structure Happening.Quiet (happening : Happening) : Prop where
  ends : ∀ c link, happening.ends c link = false
  made : ∀ c, happening.made c = []
  took : ∀ n tag, happening.took n tag = false
  gave : ∀ n, happening.gave n = []

namespace Happening.Quiet

variable {happening : Happening} (h : happening.Quiet) (past : List Happening)

include h

theorem live (c : Nat) : Hub.live c (happening :: past) = Hub.live c past := by
  simp [Hub.live, h.ends, h.made]

theorem held (n : Nat) : Hub.held n (happening :: past) = Hub.held n past := by
  simp [Hub.held, h.took, h.gave]

theorem given (n : Nat) : Hub.given n (happening :: past) = Hub.given n past :=
  given_of_gave (h.gave n)

end Happening.Quiet

theorem map_filter_eq {α β : Type} {f : α → β} {p : α → Bool} {q : β → Bool} {items : List α}
    (h : ∀ x ∈ items, p x = q (f x)) : (items.filter p).map f = (items.map f).filter q := by
  rw [List.filter_map]
  exact congrArg _ (List.filter_congr h)

/-- The connections that a session has a subscription for are its links. -/
theorem any_isAt {hub : Hub} (h : hub.Wired) {n c : Nat} {y : Nat × Endpoint}
    (hy : y ∈ hub.wires c) :
    (hub.subscriptions n).any (·.isAt c y.1) = (Link.of y).isOf n := by
  obtain ⟨k, target⟩ := y
  rw [Bool.eq_iff_iff, List.any_eq_true]
  constructor
  · rintro ⟨x, hx, hat⟩
    obtain rfl := (h.isAt_iff hx hy).mp hat
    exact beq_self_eq_true n
  · intro hof
    cases target with
    | observer name => cases hof
    | subscription m t =>
      obtain rfl := beq_iff_eq.mp hof
      obtain ⟨event, hmem⟩ := (h.linked c k m t).mp hy
      exact ⟨_, hmem, Subscription.isAt_iff.mpr ⟨rfl, rfl⟩⟩

/-- The connection of a subscription is its link. -/
theorem isAt_eq {hub : Hub} (h : hub.Wired) {n c : Nat} {x : Subscription}
    (hx : x ∈ hub.subscriptions n) {y : Nat × Endpoint} (hy : y ∈ hub.wires c) :
    x.isAt c y.1 = (Link.of y == .subscription n x.tag) := by
  rw [Bool.eq_iff_iff, h.isAt_iff hx hy, beq_iff_eq]
  obtain ⟨k, target⟩ := y
  cases target <;> simp [Link.of]

/-- The number of an observer is that of no other connection. -/
theorem isObserver_eq {hub : Hub} (h : hub.Wired) {c number : Nat}
    (hnumber : hub.hasObserver c number) {y : Nat × Endpoint} (hy : y ∈ hub.wires c) :
    (y.1 == number) = (Link.of y).isObserver number := by
  obtain ⟨k, target⟩ := y
  cases target with
  | observer name => rfl
  | subscription n t =>
    obtain ⟨name, hobserver⟩ := hasObserver_iff.mp hnumber
    refine beq_eq_false_iff_ne.mpr fun hk => ?_
    cases h.eq_of_number hy hobserver hk

namespace Booked

variable {events : List String} {hub : Hub} {past : List Happening} (h : Booked events hub past)

include h

/-- Where no tag is given or taken, it is enough to follow the links. -/
theorem of_ledger {other : Hub} {happening : Happening} (hwired : other.Wired)
    (hevents : other.events = hub.events) (hledger : ∀ n, other.ledger? n = hub.ledger? n)
    (hsessions : other.nextSession = hub.nextSession)
    (hlinks : ∀ c, (other.wires c).map Link.of = live c (happening :: past))
    (htook : ∀ n tag, happening.took n tag = false) (hgave : ∀ n, happening.gave n = []) :
    Booked events other (happening :: past) := by
  have hsubscriptions (n : Nat) : other.subscriptions n = hub.subscriptions n := by
    rw [subscriptions_eq, hledger, ← subscriptions_eq]
  have hgiven (n : Nat) : given n (happening :: past) = given n past := given_of_gave (hgave n)
  constructor
  case wired => exact hwired
  case channels => exact hevents.trans h.channels
  case names =>
    intro n
    rw [hsubscriptions]
    exact h.names n
  case links => exact hlinks
  case holds =>
    intro n
    rw [hsubscriptions, h.holds]
    simp [held, htook, hgave]
  case tags =>
    intro n
    rw [hgiven, h.tags]
  case next =>
    intro n
    rw [hledger, hgiven]
    exact h.next n
  case unopened =>
    intro n
    rw [hsessions, hgiven]
    exact h.unopened n

theorem of_alike {other : Hub} {happening : Happening} (hquiet : happening.Quiet)
    (halike : Alike other hub) : Booked events other (happening :: past) := by
  refine h.of_ledger (h.wired.of_alike halike) ?_ halike.ledger halike.nextSession (fun c => ?_)
    hquiet.took hquiet.gave
  · rw [Hub.events, Hub.events, halike.channels]
  · rw [halike.wires, hquiet.live, h.links]

theorem nothing : Booked events hub (.nothing :: past) :=
  h.of_alike ⟨fun _ _ => rfl, fun _ => rfl, fun _ _ => rfl, fun _ => rfl⟩ (.refl hub)

theorem «open» (limit : Nat) :
    Booked events (hub.open limit) (.opened hub.nextSession limit :: past) := by
  have hquiet : (Happening.opened hub.nextSession limit).Quiet :=
    ⟨fun _ _ => rfl, fun _ => rfl, fun _ _ => rfl, fun _ => rfl⟩
  constructor
  case wired => exact h.wired.open limit
  case channels => exact h.channels
  case names =>
    intro n
    rw [subscriptions_open]
    exact h.names n
  case links =>
    intro c
    rw [hquiet.live]
    exact h.links c
  case holds =>
    intro n
    rw [subscriptions_open, hquiet.held, h.holds]
  case tags =>
    intro n
    rw [hquiet.given, h.tags]
  case next =>
    intro n l hl
    rw [ledger?_open] at hl
    rw [hquiet.given]
    split at hl
    · rename_i hn
      cases hl
      rw [h.unopened n (Nat.le_of_eq hn)]
      rfl
    · exact h.next n l hl
  case unopened =>
    intro n hn
    rw [nextSession_open] at hn
    rw [hquiet.given]
    exact h.unopened n (Nat.le_of_succ_le hn)

theorem close (n : Nat) : Booked events (hub.close n) (.closed n :: past) := by
  constructor
  case wired => exact h.wired.close n
  case channels => rw [events_close, h.channels]
  case names =>
    intro m
    rw [subscriptions_close]
    split
    · exact nofun
    · exact h.names m
  case links =>
    intro c
    rw [wires_close, live, ← h.links]
    refine (map_filter_eq fun y hy => ?_).trans (List.append_nil _).symm
    rw [any_isAt h.wired hy]
    rfl
  case holds =>
    intro m
    rw [subscriptions_close, held, ← h.holds]
    by_cases hm : n = m
    · simp [hm, Happening.took, Happening.gave]
    · simp [hm, Happening.took, Happening.gave, beq_false_of_ne hm]
  case tags =>
    intro m
    rw [given_of_gave rfl, h.tags]
  case next =>
    intro m l hl
    rw [ledger?_close] at hl
    rw [given_of_gave rfl]
    split at hl
    · cases hl
    · exact h.next m l hl
  case unopened =>
    intro m hm
    rw [nextSession_close] at hm
    rw [given_of_gave rfl, h.unopened m hm]

theorem release {n : Nat} {x : Subscription} (hx : x ∈ hub.subscriptions n) :
    Booked events (hub.release n x) (.unsubscribed n x.tag :: past) := by
  constructor
  case wired => exact h.wired.release hx
  case channels =>
    rw [Hub.release, disconnect, events_modifySignal]
    exact h.channels
  case names =>
    intro m y hy
    rw [subscriptions_release] at hy
    split at hy
    · exact h.names m y (List.mem_of_mem_filter hy)
    · exact h.names m y hy
  case links =>
    intro c
    rw [wires_release, live, ← h.links]
    refine (map_filter_eq fun y hy => ?_).trans (List.append_nil _).symm
    rw [isAt_eq h.wired hx hy]
    rfl
  case holds =>
    intro m
    rw [subscriptions_release, held, ← h.holds]
    refine Eq.trans ?_ (List.append_nil _).symm
    by_cases hm : n = m
    · subst hm
      rw [if_pos rfl]
      refine map_filter_eq fun y _ => ?_
      rw [Happening.took, beq_self_eq_true, Bool.true_and, bne, BEq.comm]
    · simp [hm, Happening.took, beq_false_of_ne hm]
  case tags =>
    intro m
    rw [given_of_gave rfl, h.tags]
  case next =>
    intro m l hl
    rw [ledger?_release] at hl
    rw [given_of_gave rfl]
    split at hl
    · obtain ⟨old, hold, rfl⟩ := Option.map_eq_some_iff.mp hl
      exact h.next m old hold
    · exact h.next m l hl
  case unopened =>
    intro m hm
    rw [given_of_gave rfl]
    exact h.unopened m (nextSession_release hub n x ▸ hm)

theorem subscribe {n c : Nat} {s : Session} {channel : Channel} (hs : hub.session? n = some s)
    (hchannel : hub.channels[c]? = some channel) :
    Booked events (hub.subscribe n c).1 (.subscribed n c (hub.subscribe n c).2 :: past) := by
  have hledger : hub.ledger? n = some (s.nextTag, s.subscriptions) := by rw [ledger?, hs]; rfl
  have hnext : s.nextTag = (given n past).length := h.next n _ hledger
  have hgave {m : Nat} (hm : n ≠ m) : (Happening.subscribed n c s.nextTag).gave m = [] := if_neg hm
  rw [subscribe_snd hs hchannel]
  constructor
  case wired => exact h.wired.subscribe hs hchannel
  case channels => rw [events_subscribe hs hchannel, h.channels]
  case names =>
    intro m y hy
    rw [subscriptions_subscribe hs hchannel] at hy
    rcases List.mem_append.mp hy with hy | hy
    · exact h.names m y hy
    · split at hy
      · rw [List.mem_singleton.mp hy, ← h.channels, Hub.events, List.getElem?_map, hchannel]
        rfl
      · cases hy
  case links =>
    intro d
    rw [wires_subscribe hs hchannel, live, ← h.links]
    by_cases hd : c = d <;> simp [hd, Happening.ends, Happening.made, Link.of]
  case holds =>
    intro m
    rw [subscriptions_subscribe hs hchannel, held, ← h.holds]
    by_cases hm : n = m <;> simp [hm, Happening.took, Happening.gave]
  case tags =>
    intro m
    by_cases hm : n = m
    · subst hm
      simp [given, Happening.gave, h.tags, hnext, List.range_succ]
    · rw [given_of_gave (hgave hm), h.tags]
  case next =>
    intro m l hl
    rw [ledger?_subscribe hs hchannel] at hl
    split at hl
    · rename_i hm
      cases hl
      simp [given, Happening.gave, hm, hnext]
    · rename_i hm
      rw [given_of_gave (hgave hm)]
      exact h.next m l hl
  case unopened =>
    intro m hm
    rw [nextSession_subscribe hs hchannel] at hm
    have hne : n ≠ m := Nat.ne_of_lt (Nat.lt_of_lt_of_le (lt_nextSession hs) hm)
    rw [given_of_gave (hgave hne), h.unopened m hm]

theorem attach {c : Nat} {channel : Channel} (hchannel : hub.channels[c]? = some channel)
    (name : Nat) :
    Booked events (hub.attach c name) (.attached c channel.signal.next name :: past) := by
  refine h.of_ledger (h.wired.attach hchannel name) (events_modifySignal hub c _) (fun _ => rfl) rfl
    (fun d => ?_) (fun _ _ => rfl) fun _ => rfl
  rw [Hub.attach, wires_connect hchannel, live, ← h.links]
  by_cases hd : c = d <;> simp [hd, Happening.ends, Happening.made, Link.of]

theorem detach {c number : Nat} (hnumber : hub.hasObserver c number) :
    Booked events (hub.detach c number) (.detached c number :: past) := by
  refine h.of_ledger (h.wired.detach hnumber) (events_modifySignal hub c _) (fun _ => rfl) rfl
    (fun d => ?_) (fun _ _ => rfl) fun _ => rfl
  rw [wires_detach, live, ← h.links]
  refine (map_filter_eq fun y hy => ?_).trans (List.append_nil _).symm
  by_cases hd : c = d
  · subst hd
    rw [isObserver_eq h.wired hnumber hy]
    rfl
  · simp [beq_false_of_ne hd, Happening.ends]

/-- Any operation leaves the hub as its past says, of which it is then a part. -/
theorem perform (op : Operation) :
    Booked events (hub.perform op).1 ((hub.perform op).2 :: past) := by
  cases op with
  | «open» limit => exact h.open limit
  | close n => exact h.close n
  | negotiate n negotiated =>
    exact h.of_alike ⟨fun _ _ => rfl, fun _ => rfl, fun _ _ => rfl, fun _ => rfl⟩
      (alike_modifySession hub n fun _ => ⟨rfl, rfl⟩)
  | subscribe n c =>
    rw [Hub.perform]
    split
    · rename_i s channel hs hchannel
      exact h.subscribe hs hchannel
    · exact h.nothing
  | unsubscribe n tag =>
    rw [Hub.perform, unsubscribe_eq]
    cases hfind : (hub.subscriptions n).find? fun x => (x.tag : Int) == tag.toInt with
    | none => exact h.nothing
    | some x =>
      have htag : (x.tag : Int) = tag.toInt := by simpa using List.find?_some hfind
      rw [← htag]
      exact h.release (List.mem_of_find?_eq_some hfind)
  | emit c payload =>
    exact h.of_alike ⟨fun _ _ => rfl, fun _ => rfl, fun _ _ => rfl, fun _ => rfl⟩
      (alike_emit hub c payload)
  | drain n =>
    exact h.of_alike ⟨fun _ _ => rfl, fun _ => rfl, fun _ _ => rfl, fun _ => rfl⟩
      (alike_modifySession hub n fun _ => ⟨rfl, rfl⟩)
  | attach c name =>
    rw [Hub.perform]
    split
    · rename_i channel hchannel
      exact h.attach hchannel name
    · exact h.nothing
  | detach c number =>
    rw [Hub.perform]
    split
    · rename_i hnumber
      exact h.detach hnumber
    · exact h.nothing

end Booked

/-- After every run the hub is as its past says. -/
theorem booked_run (events : List String) (ops : List Operation) :
    Booked events (run events ops).hub (run events ops).past :=
  run_induction (booked_ofEvents events) (fun _ _ op h => h.perform op) ops

/-! ### What the owners of subscriptions see -/

theorem active_eq (hub : Hub) (n : Nat) :
    hub.active n = (hub.subscriptions n).map fun x => (x.tag, x.event) := by
  rw [active, subscriptions]
  cases hub.session? n <;> rfl

namespace Booked

variable {events : List String} {hub : Hub} {past : List Happening} (h : Booked events hub past)

include h

theorem active_eq_held (n : Nat) : hub.active n =
    (held n past).map fun handle => (handle.1, events[handle.2]?.getD "") := by
  rw [active_eq, ← h.holds, List.map_map]
  exact List.map_congr_left fun x hx => congrArg (x.tag, ·) (h.names n x hx)

theorem pairwise_active (n : Nat) : ((hub.active n).map (·.1)).Pairwise (· < ·) := by
  rw [active_eq, List.map_map]
  cases hl : hub.ledger? n with
  | none =>
    rw [subscriptions_eq, hl]
    exact .nil
  | some l =>
    rw [subscriptions_of_ledger hl]
    exact (h.wired.tags n _ _ hl).1

theorem nodup_given (n : Nat) : ((given n past).map (·.1)).Nodup := by
  rw [h.tags]
  exact List.nodup_range

theorem unsubscribe_eq_ok_iff (n : Nat) (tag : Int64) :
    (hub.unsubscribe n tag).2 = .ok () ↔ ∃ handle ∈ held n past, (handle.1 : Int) = tag.toInt := by
  rw [unsubscribe_eq, ← h.holds]
  simp only [List.mem_map, exists_exists_and_eq_and]
  cases hfind : (hub.subscriptions n).find? fun x => (x.tag : Int) == tag.toInt with
  | none =>
    simp only [List.find?_eq_none, beq_iff_eq] at hfind
    exact ⟨nofun, fun ⟨x, hx, htag⟩ => absurd htag (hfind x hx)⟩
  | some x =>
    have htag : (x.tag : Int) = tag.toInt := by simpa using List.find?_some hfind
    exact ⟨fun _ => ⟨x, List.mem_of_find?_eq_some hfind, htag⟩, fun _ => rfl⟩

end Booked

/-- After every run, the connections of each channel are the links that live, and the subscriptions
of each session are the handles that it holds, by increasing tag. No session gives a tag twice. A
subscription can be ended just if its tag is held, and where none is ended nothing changes. -/
theorem run_bookkeeping (events : List String) (ops : List Operation) :
    let hub := (run events ops).hub
    let past := (run events ops).past
    (∀ c, (hub.wires c).map Link.of = live c past) ∧
    (∀ n, hub.active n =
      (held n past).map fun handle => (handle.1, events[handle.2]?.getD "")) ∧
    (∀ n, ((hub.active n).map (·.1)).Pairwise (· < ·)) ∧
    (∀ n, ((given n past).map (·.1)).Nodup) ∧
    (∀ n tag, (hub.unsubscribe n tag).2 = .ok () ↔
      ∃ handle ∈ held n past, (handle.1 : Int) = tag.toInt) ∧
    ∀ n tag error, (hub.unsubscribe n tag).2 = .error error →
      (hub.unsubscribe n tag).1 = hub ∧ hub.perform (.unsubscribe n tag) = (hub, .nothing) := by
  have h := booked_run events ops
  refine ⟨h.links, h.active_eq_held, h.pairwise_active, h.nodup_given, h.unsubscribe_eq_ok_iff,
    fun n tag error herror => ?_⟩
  rw [perform, unsubscribe_of_error herror]
  exact ⟨rfl, rfl⟩

/-- A handle that was taken back is not held, and taking it back again does nothing. -/
theorem run_bookkeeping_again :
    let c := run ["SHAPE_CHANGED"]
      [.open 2, .subscribe 0 0, .attach 0 7, .subscribe 0 0, .unsubscribe 0 0]
    (c.hub.wires 0).map Link.of = [.observer 1 7, .subscription 0 1] ∧
      c.hub.active 0 = [(1, "SHAPE_CHANGED")] ∧
      (c.hub.unsubscribe 0 0).2 = .error inactiveTag ∧
      (c.hub.unsubscribe 0 0).1 = c.hub ∧
      c.hub.perform (.unsubscribe 0 0) = (c.hub, .nothing) := by
  intro c
  obtain ⟨hlinks, hactive, -, -, -, hfailed⟩ := run_bookkeeping ["SHAPE_CHANGED"]
    [.open 2, .subscribe 0 0, .attach 0 7, .subscribe 0 0, .unsubscribe 0 0]
  have herror : (c.hub.unsubscribe 0 0).2 = .error inactiveTag := rfl
  exact ⟨hlinks 0, hactive 0, herror, hfailed 0 0 inactiveTag herror⟩

end RpcSchema.Hub
