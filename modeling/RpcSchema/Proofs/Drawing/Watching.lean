import RpcSchema.Proofs.Drawing.Effects
import RpcSchema.Proofs.Rpc.Delivery

/-!
# Who is told of a shape

Clients open and close sessions, send lines in them and take what waits, in any order. All of it is
written down as they see it: the lines with the responses, and the messages taken. From the writing
alone follows which subscriptions a session has and what waits for it. A subscription begins with a
line that is answered with its tag and ends with one that gives the tag back, and each shape that a
line stores is told once under every tag of every session.

A session that was not answered that it negotiated has no subscriptions, so it is never told
anything.

Writings are read from the latest record back to the first.

## Main definitions

* `Action`, `Record`, `Diary.next`, `run` — runs and what is written down
* `watching` — the tags of the subscriptions that a session obtained and has not given back
* `told`, `mailbox` — what a session was told since it last took what waits, and what waits
* `Negotiated` — sessions that were answered that they negotiated

## Main results

* `Recorded.effect` — what a line does is as its record says
* `Recorded.next`, `recorded_run` — so is what any action does, and what a run does
* `events_gated` — subscriptions, messages and negotiation after a run
-/

namespace RpcSchema.Drawing

open Json (Members)
open RpcSchema.Wire

/-! ### Runs -/

/-- Something that clients do. -/
inductive Action
  | open (limit : Nat)
  | close (session : Nat)
  /-- sends a line in a session -/
  | send (session : Nat) (line : String)
  /-- takes what waits for a session -/
  | drain (session : Nat)

/-- What came of an action. -/
inductive Record
  | opened (session limit : Nat)
  | closed (session : Nat)
  | answered (session : Nat) (line : String) (response : Option Response)
  | drained (session : Nat) (taken : List Delivery)

/-- The desk of a drawing service, with all that happened at it, the latest first. -/
structure Diary where
  desk : Desk Service
  past : List Record

namespace Diary

/-- The sessions and their channel. -/
def hub (d : Diary) : Hub := d.desk.state.hub

/-- A diary after a change of the sessions, which is written down. -/
def note (d : Diary) (hub : Hub) (record : Record) : Diary :=
  ⟨⟨{ d.desk.state with hub }, d.desk.replies⟩, record :: d.past⟩

/-- A diary after one more action. Only in an open session can a line be sent. -/
def next (d : Diary) : Action → Diary
  | .open limit => d.note (d.hub.open limit) (.opened d.hub.nextSession limit)
  | .close n => d.note (d.hub.close n) (.closed n)
  | .send n line =>
    if (d.hub.session? n).isSome then
      let (desk, pending) := d.desk.submitLine commands n line
      ⟨desk, .answered n line (desk.wait pending) :: d.past⟩
    else d
  | .drain n => d.note (d.hub.drained n) (.drained n (d.hub.waiting n))

end Diary

/-- What happens when clients do some things at a new service. -/
def run (actions : List Action) : Diary := actions.foldl Diary.next ⟨⟨.empty, []⟩, []⟩

/-! ### What follows from the past -/

/-- What was done for the line of a record. -/
def Record.done? : Record → Option Done
  | .answered n line response => Drawing.done? n line response
  | _ => none

/-- Whether a record is that of a command of a session that was answered with a result. -/
def Record.does (command : String) (session : Nat) (record : Record) : Bool :=
  record.done?.any fun d => d.command == command && d.session == session

/-- A session was answered that it negotiated. -/
def Negotiated (session : Nat) (past : List Record) : Prop :=
  ∃ record ∈ past, record.does "qmp_capabilities" session

/-- How many subscriptions a session has obtained, which is the tag of the next one. -/
def obtained (session : Nat) (past : List Record) : Nat :=
  past.countP (Record.does "watch-shape" session)

/-- The tag that a record obtains for a session. -/
def Record.grants (session : Nat) (past : List Record) (record : Record) : List Nat :=
  if record.does "watch-shape" session then [obtained session past] else []

/-- Whether a record gives a tag of a session back. -/
def Record.releases (session tag : Nat) : Record → Bool
  | .closed n => n == session
  | record => record.done?.any fun d => d.command == "put-event" && d.session == session &&
      (required Int64 d.arguments "tag").toOption.any fun t => t.toInt == (tag : Int)

/-- The tags that a session obtained and has not given back, in that order. -/
def watching (session : Nat) : List Record → List Nat
  | [] => []
  | record :: earlier =>
    (watching session earlier).filter (fun tag => !record.releases session tag) ++
      record.grants session earlier

/-- The shape that was stored for the line of a record. -/
def Record.stored? (record : Record) : Option Shape :=
  record.done?.bind fun d =>
    if d.command = "put-shape" then (required Shape d.arguments "shape").toOption else none

/-- Whether a record is that of a session that took what waits. -/
def Record.takes (session : Nat) : Record → Bool
  | .drained n _ => n == session
  | _ => false

/-- What a session was told since it last took what waits: of each stored shape, one message for
every tag that it was watching under. -/
def told (session : Nat) : List Record → List Delivery
  | [] => []
  | record :: earlier =>
    (if record.takes session then [] else told session earlier) ++
      record.stored?.toList.flatMap fun shape =>
        (watching session earlier).map fun tag => ⟨ShapeChanged.event, shapeData shape, tag⟩

/-- The limit that a session was opened with, while it is open. -/
def limit? (session : Nat) : List Record → Option Nat
  | [] => none
  | .opened n limit :: earlier => if n = session then some limit else limit? session earlier
  | .closed n :: earlier => if n = session then none else limit? session earlier
  | _ :: earlier => limit? session earlier

/-- What waits for a session: the newest of what it was told, as many as its limit, which is one at
least. -/
def mailbox (session : Nat) (past : List Record) : List Delivery :=
  ((limit? session past).map fun limit => (told session past).rtake (max limit 1)).getD []

/-! ### What happened at the hub -/

/-- Happenings at the hub that come to the same as a past of the service. -/
structure Mirrors (notes : List Hub.Happening) (past : List Record) : Prop where
  held : ∀ n, Hub.held n notes = (watching n past).map (·, shapeChannel)
  given : ∀ n, (Hub.given n notes).length = obtained n past
  limit : ∀ n, Hub.limit? n notes = limit? n past
  delivered : ∀ n, Hub.delivered [ShapeChanged.event] n notes = told n past

theorem mirrors_nil : Mirrors [] [] := ⟨fun _ => rfl, fun _ => rfl, fun _ => rfl, fun _ => rfl⟩

namespace Mirrors

variable {notes : List Hub.Happening} {past : List Record} (h : Mirrors notes past)

include h

/-- A session is connected with the channel under the tags that it is watching under. -/
theorem tags (n : Nat) :
    (Hub.live shapeChannel notes).filterMap (Hub.Link.tag? n) = watching n past := by
  rw [Hub.filterMap_tag?_live, h.held, List.filter_map, List.map_map]
  have hall : ((fun handle : Nat × Nat => handle.2 == shapeChannel) ∘ (·, shapeChannel)) =
      fun _ : Nat => true := rfl
  rw [hall, List.filter_true]
  exact List.map_id _

/-- A happening that comes to the same as a record. -/
theorem cons {happening : Hub.Happening} {record : Record}
    (htook : ∀ n tag, happening.took n tag = record.releases n tag)
    (hgave : ∀ n, happening.gave n = (record.grants n past).map (·, shapeChannel))
    (hlimit : ∀ n, Hub.limit? n (happening :: notes) = limit? n (record :: past))
    (hdelivered : ∀ n, Hub.delivered [ShapeChanged.event] n (happening :: notes) =
      told n (record :: past)) :
    Mirrors (happening :: notes) (record :: past) where
  held n := by
    rw [Hub.held, watching, h.held, hgave, List.map_append, List.filter_map]
    simp only [Function.comp_def, htook]
  given n := by
    rw [Hub.given, List.length_append, h.given, hgave, List.length_map, obtained, obtained,
      List.countP_cons, Record.grants]
    split <;> rfl
  limit := hlimit
  delivered := hdelivered

end Mirrors

/-! ### Negotiation -/

theorem Negotiated.cons {n : Nat} {past : List Record} (h : Negotiated n past) (record : Record) :
    Negotiated n (record :: past) := by
  obtain ⟨earlier, hmem, hdoes⟩ := h
  exact ⟨earlier, List.mem_cons_of_mem _ hmem, hdoes⟩

section

variable {n : Nat} {past : List Record}
  (htags : ∀ record earlier, record :: earlier <:+ past → record.does "watch-shape" n →
    Negotiated n earlier)

include htags

/-- A session that obtains tags only once it has negotiated is not watching before. -/
theorem negotiated_of_watching (h : watching n past ≠ []) : Negotiated n past := by
  induction past with
  | nil => exact absurd rfl h
  | cons record earlier ih =>
    by_cases hearlier : watching n earlier = []
    · have hdoes : record.does "watch-shape" n := by
        by_contra hnot
        simp [watching, hearlier, Record.grants, hnot] at h
      exact (htags record earlier List.suffix_rfl hdoes).cons record
    · refine (ih (fun later before hsuffix => ?_) hearlier).cons record
      exact htags later before (hsuffix.trans (List.suffix_cons _ _))

/-- Nor is it told anything before. -/
theorem negotiated_of_told (h : told n past ≠ []) : Negotiated n past := by
  induction past with
  | nil => exact absurd rfl h
  | cons record earlier ih =>
    have hbefore : ∀ later before, later :: before <:+ earlier → later.does "watch-shape" n →
        Negotiated n before :=
      fun later before hsuffix => htags later before (hsuffix.trans (List.suffix_cons _ _))
    by_cases hwatching : watching n earlier = []
    · have hearlier : told n earlier ≠ [] := by
        rintro hnil
        simp [told, hwatching, hnil] at h
      exact (ih hbefore hearlier).cons record
    · exact (negotiated_of_watching hbefore hwatching).cons record

theorem negotiated_of_mailbox (h : mailbox n past ≠ []) : Negotiated n past := by
  refine negotiated_of_told htags fun htold => h ?_
  rw [mailbox, htold]
  cases limit? n past with
  | none => rfl
  | some limit => exact List.rtake_nil _

end

/-! ### One action -/

/-- Sessions that are as the past says, where each record that was written is true of what was
written before it. -/
structure Recorded (hub : Hub) (past : List Record) : Prop where
  noted : ∃ notes, Hub.Booked [ShapeChanged.event] hub notes ∧
    Hub.Queued [ShapeChanged.event] hub notes ∧ Mirrors notes past
  negotiated : ∀ n, hub.isNegotiated n → Negotiated n past
  tags : ∀ n record earlier, record :: earlier <:+ past → record.does "watch-shape" n →
    Negotiated n earlier ∧
      ∃ d ∈ record.done?, d.value = .int (Int64.ofNat (obtained n earlier)).toInt
  drains : ∀ n taken earlier, .drained n taken :: earlier <:+ past → taken = mailbox n earlier

namespace Recorded

variable {hub : Hub} {past : List Record} (h : Recorded hub past)

include h

/-- What waits for a session is what the past says. -/
theorem waiting (n : Nat) : hub.waiting n = mailbox n past := by
  obtain ⟨notes, -, hqueued, hmirrors⟩ := h.noted
  have hwaiting : hub.waiting n = ((hub.mailbox? n).map (·.2)).getD [] := by
    rw [Hub.waiting, Hub.mailbox?, Option.map_map]
    rfl
  rw [hwaiting, hqueued.mailbox, hmirrors.limit, hmirrors.delivered, Option.map_map]
  rfl

/-- The active subscriptions of a session are those that the past says. -/
theorem active (n : Nat) : hub.active n = (watching n past).map (·, ShapeChanged.event) := by
  obtain ⟨notes, hbooked, -, hmirrors⟩ := h.noted
  rw [hbooked.active_eq_held, hmirrors.held, List.map_map]
  rfl

theorem nodup_watching (n : Nat) : (watching n past).Nodup := by
  obtain ⟨notes, hbooked, -, -⟩ := h.noted
  have htags := (hbooked.pairwise_active n).imp Nat.ne_of_lt
  rw [h.active, List.map_map] at htags
  exact (List.map_id _).subst htags

/-- At any time, a session that is answered with a tag has negotiated. -/
theorem gate {earlier : List Record} (hsuffix : earlier <:+ past) (n : Nat) (record : Record)
    (before : List Record) (hbefore : record :: before <:+ earlier)
    (hdoes : record.does "watch-shape" n) : Negotiated n before :=
  (h.tags n record before (hbefore.trans hsuffix) hdoes).1

/-- What is written down next is true of what was written before it. -/
theorem cons {after : Hub} {record : Record}
    (hnoted : ∃ notes, Hub.Booked [ShapeChanged.event] after notes ∧
      Hub.Queued [ShapeChanged.event] after notes ∧ Mirrors notes (record :: past))
    (hnegotiated : ∀ n, after.isNegotiated n →
      hub.isNegotiated n ∨ record.does "qmp_capabilities" n)
    (htags : ∀ n, record.does "watch-shape" n → hub.isNegotiated n ∧
      ∃ d ∈ record.done?, d.value = .int (Int64.ofNat (obtained n past)).toInt)
    (hdrains : ∀ n taken, record = .drained n taken → taken = hub.waiting n) :
    Recorded after (record :: past) where
  noted := hnoted
  negotiated n hn := by
    rcases hnegotiated n hn with hn | hn
    · exact (h.negotiated n hn).cons record
    · exact ⟨record, List.mem_cons_self, hn⟩
  tags n later earlier hsuffix hdoes := by
    rcases List.suffix_cons_iff.mp hsuffix with heq | hsuffix
    · cases heq
      obtain ⟨hn, htag⟩ := htags n hdoes
      exact ⟨h.negotiated n hn, htag⟩
    · exact h.tags n later earlier hsuffix hdoes
  drains n taken earlier hsuffix := by
    rcases List.suffix_cons_iff.mp hsuffix with heq | hsuffix
    · cases heq
      exact (hdrains n taken rfl).trans (h.waiting n)
    · exact h.drains n taken earlier hsuffix

/-- An operation of the hub that comes to the same as a record. -/
theorem perform (op : Hub.Operation) (record : Record)
    (hmirrors : ∀ notes, Hub.Booked [ShapeChanged.event] hub notes → Mirrors notes past →
      Mirrors ((hub.perform op).2 :: notes) (record :: past))
    (hnegotiate : ∀ n negotiated, op = .negotiate n negotiated →
      record.does "qmp_capabilities" n)
    (htags : ∀ n, record.does "watch-shape" n → hub.isNegotiated n ∧
      ∃ d ∈ record.done?, d.value = .int (Int64.ofNat (obtained n past)).toInt)
    (hdrains : ∀ n taken, record = .drained n taken → taken = hub.waiting n) :
    Recorded (hub.perform op).1 (record :: past) := by
  obtain ⟨notes, hbooked, hqueued, hnotes⟩ := h.noted
  refine h.cons ⟨_, hbooked.perform op, hqueued.perform hbooked op, hmirrors notes hbooked hnotes⟩
    (fun n hn => ?_) htags hdrains
  refine (Hub.isNegotiated_perform hn).imp_right ?_
  rintro ⟨negotiated, hop⟩
  exact hnegotiate n negotiated hop

end Recorded

/-! #### Lines -/

/-- A line that stores no shape tells nobody. -/
theorem told_answered {n : Nat} {line : String} {response : Option Response}
    (h : (Record.answered n line response).stored? = none) (m : Nat) (past : List Record) :
    told m (.answered n line response :: past) = told m past := by
  rw [told, h]
  exact List.append_nil _

section

variable {n : Nat} {line : String} {response : Option Response} {d : Done}
  (hdone : done? n line response = some d)

include hdone

theorem does_answered (command : String) (m : Nat) :
    (Record.answered n line response).does command m =
      (d.command == command && d.session == m) := by
  rw [Record.does, Record.done?, hdone, Option.any_some]

theorem grants_answered (m : Nat) (past : List Record) :
    (Record.answered n line response).grants m past =
      if d.command = "watch-shape" ∧ d.session = m then [obtained m past] else [] := by
  simp [Record.grants, does_answered hdone]

theorem releases_answered (m tag : Nat) : (Record.answered n line response).releases m tag =
    (d.command == "put-event" && d.session == m &&
      (required Int64 d.arguments "tag").toOption.any fun t => t.toInt == (tag : Int)) := by
  show (Record.answered n line response).done?.any _ = _
  rw [Record.done?, hdone, Option.any_some]

theorem stored?_answered : (Record.answered n line response).stored? =
    if d.command = "put-shape" then (required Shape d.arguments "shape").toOption else none := by
  rw [Record.stored?, Record.done?, hdone, Option.bind_some]

variable {notes : List Hub.Happening} {past : List Record} (h : Mirrors notes past)

include h

theorem Mirrors.subscribed (hcommand : d.command = "watch-shape") :
    Mirrors (.subscribed d.session shapeChannel (obtained d.session past) :: notes)
      (.answered n line response :: past) := by
  refine h.cons (fun m tag => ?_) (fun m => ?_) h.limit fun m => ?_
  · simp [releases_answered hdone, hcommand, Hub.Happening.took]
  · rw [grants_answered hdone, Hub.Happening.gave]
    by_cases hm : d.session = m <;> simp [hcommand, hm]
  · refine (h.delivered m).trans (told_answered ?_ m past).symm
    simp [stored?_answered hdone, hcommand]

theorem Mirrors.released {tag : Int64} {number : Nat} (hcommand : d.command = "put-event")
    (htag : required Int64 d.arguments "tag" = .ok tag) (hnumber : (number : Int) = tag.toInt) :
    Mirrors (.unsubscribed d.session number :: notes) (.answered n line response :: past) := by
  refine h.cons (fun m t => ?_) (fun m => ?_) h.limit fun m => ?_
  · have hequal : (number == t) = (tag.toInt == (t : Int)) := by
      rw [← hnumber, Bool.eq_iff_iff, beq_iff_eq, beq_iff_eq, Int.natCast_inj]
    rw [Hub.Happening.took, hequal, releases_answered hdone, htag]
    simp [hcommand, Except.toOption]
  · simp [grants_answered hdone, hcommand, Hub.Happening.gave]
  · refine (h.delivered m).trans (told_answered ?_ m past).symm
    simp [stored?_answered hdone, hcommand]

theorem Mirrors.told {shape : Shape} (hcommand : d.command = "put-shape")
    (hshape : required Shape d.arguments "shape" = .ok shape) :
    Mirrors (.emitted shapeChannel (.ok (shapeData shape)) :: notes)
      (.answered n line response :: past) := by
  refine h.cons (fun m tag => ?_) (fun m => ?_) h.limit fun m => ?_
  · simp [releases_answered hdone, hcommand, Hub.Happening.took]
  · simp [grants_answered hdone, hcommand, Hub.Happening.gave]
  · rw [Drawing.told, stored?_answered hdone, if_pos hcommand, hshape, Hub.delivered, h.tags,
      h.delivered]
    simp [Except.toOption, Record.takes, shapeChannel]

end

/-- A line that obtains no tag, gives none back and stores no shape. -/
theorem Mirrors.answered {notes : List Hub.Happening} {past : List Record} (h : Mirrors notes past)
    {n : Nat} {line : String} {response : Option Response}
    (hkept : ∀ d ∈ done? n line response,
      d.command ≠ "put-shape" ∧ d.command ≠ "watch-shape" ∧ d.command ≠ "put-event") :
    Mirrors (.nothing :: notes) (.answered n line response :: past) := by
  have hnone : (Record.answered n line response).stored? = none ∧
      (∀ m, (Record.answered n line response).grants m past = []) ∧
      ∀ m tag, (Record.answered n line response).releases m tag = false := by
    cases hdone : done? n line response with
    | none =>
      simp [Record.stored?, Record.grants, Record.does, Record.releases, Record.done?, hdone]
    | some d =>
      obtain ⟨hshape, hwatch, hevent⟩ := hkept d hdone
      simp [stored?_answered hdone, grants_answered hdone, releases_answered hdone, *]
  obtain ⟨hstored, hgrants, hreleases⟩ := hnone
  refine h.cons (fun m tag => (hreleases m tag).symm) (fun m => ?_) h.limit fun m => ?_
  · rw [hgrants]
    rfl
  · exact (h.delivered m).trans (told_answered hstored m past).symm

namespace Recorded

variable {hub : Hub} {past : List Record} (h : Recorded hub past)

include h

/-- A session that has negotiated subscribes, and gets the tag that is the next one. -/
theorem perform_subscribe {n : Nat} (hn : hub.isNegotiated n) :
    (hub.subscribe n shapeChannel).2 = obtained n past ∧
      hub.perform (.subscribe n shapeChannel) =
        ((hub.subscribe n shapeChannel).1, .subscribed n shapeChannel (obtained n past)) := by
  obtain ⟨notes, hbooked, -, hnotes⟩ := h.noted
  obtain ⟨s, hs⟩ : ∃ s, hub.session? n = some s := by
    rw [Hub.isNegotiated] at hn
    cases hs : hub.session? n with
    | none => simp [hs] at hn
    | some s => exact ⟨s, rfl⟩
  obtain ⟨channel, hchannel⟩ : ∃ channel, hub.channels[shapeChannel]? = some channel := by
    have hevent : hub.events[shapeChannel]? = some ShapeChanged.event := by
      rw [hbooked.channels]
      rfl
    rw [Hub.events, List.getElem?_map, Option.map_eq_some_iff] at hevent
    obtain ⟨channel, hchannel, -⟩ := hevent
    exact ⟨channel, hchannel⟩
  have htag : (hub.subscribe n shapeChannel).2 = obtained n past := by
    rw [Hub.subscribe_snd hs hchannel, ← hnotes.given]
    exact hbooked.next n (s.nextTag, s.subscriptions) (by rw [Hub.ledger?, hs]; rfl)
  refine ⟨htag, ?_⟩
  rw [Hub.perform, hs, hchannel, ← htag]

/-- What a line does to the sessions is as its record says. -/
theorem effect {after : Hub} {n : Nat} {line : String} {response : Option Response}
    (heffect : Effect hub (done? n line response) after) :
    Recorded after (.answered n line response :: past) := by
  generalize hdone : done? n line response = done at heffect
  cases heffect with
  | @negotiated d hcommand =>
    refine h.perform (.negotiate d.session true) _ (fun notes _ hnotes => ?_) ?_ ?_ (by simp)
    · refine hnotes.answered fun other hother => ?_
      obtain rfl := Option.some.inj (hdone.symm.trans hother)
      simp [hcommand]
    · rintro _ _ ⟨⟩
      simp [does_answered hdone, hcommand]
    · simp [does_answered hdone, hcommand]
  | @subscribed d hcommand hnegotiated hvalue =>
    obtain ⟨htag, hperform⟩ := h.perform_subscribe hnegotiated
    have hrecorded := h.perform (.subscribe d.session shapeChannel) (.answered n line response)
      (fun notes _ hnotes => hperform ▸ hnotes.subscribed hdone hcommand) (by simp) ?_ (by simp)
    · rwa [hperform] at hrecorded
    · intro m hdoes
      rw [does_answered hdone, Bool.and_eq_true, beq_iff_eq, beq_iff_eq] at hdoes
      obtain ⟨-, rfl⟩ := hdoes
      exact ⟨hnegotiated, d, hdone, htag ▸ hvalue⟩
  | @released d tag after hcommand htag hafter =>
    have hperform : hub.perform (.unsubscribe d.session tag) =
        (after, .unsubscribed d.session tag.toInt.toNat) := by
      rw [Hub.perform, hafter]
    have hrecorded := h.perform (.unsubscribe d.session tag) (.answered n line response)
      (fun notes hbooked hnotes => ?_) (by simp) ?_ (by simp)
    · rwa [hperform] at hrecorded
    · -- the tag is that of a subscription, so it is not negative
      obtain ⟨handle, -, hhandle⟩ :=
        (hbooked.unsubscribe_eq_ok_iff d.session tag).mp (congrArg Prod.snd hafter)
      rw [hperform]
      exact hnotes.released hdone hcommand htag (by omega)
    · simp [does_answered hdone, hcommand]
  | @told d shape hcommand hshape =>
    exact h.perform (.emit shapeChannel (.ok (shapeData shape))) _
      (fun notes _ hnotes => hnotes.told hdone hcommand hshape) (by simp)
      (by simp [does_answered hdone, hcommand]) (by simp)
  | kept hkept =>
    obtain ⟨notes, hbooked, hqueued, hnotes⟩ := h.noted
    refine h.cons ⟨_, hbooked.nothing, hqueued.nothing, hnotes.answered fun d hd => ?_⟩
      (fun _ => .inl) (fun m hdoes => ?_) (by simp)
    · have hcommand := hkept d (hdone.symm.trans hd)
      simp only [sessionCommands, List.mem_cons, not_or] at hcommand
      exact ⟨hcommand.1, hcommand.2.2.1, hcommand.2.2.2.1⟩
    · cases done with
      | none => simp [Record.does, Record.done?, hdone] at hdoes
      | some d =>
        rw [does_answered hdone, Bool.and_eq_true, beq_iff_eq] at hdoes
        exact absurd (by simp [sessionCommands, hdoes.1]) (hkept d rfl)

end Recorded

/-! ### Runs -/

/-- Any action leaves the sessions as its record says. -/
theorem Recorded.next {d : Diary} (h : Recorded d.hub d.past) (action : Action) :
    Recorded (d.next action).hub (d.next action).past := by
  cases action with
  | «open» limit =>
    refine h.perform (.open limit) _ (fun notes _ hnotes => ?_) nofun nofun nofun
    refine hnotes.cons (fun _ _ => rfl) (fun _ => rfl) (fun m => ?_) fun m => ?_
    · exact congrArg (fun l => if d.hub.nextSession = m then some limit else l) (hnotes.limit m)
    · exact (hnotes.delivered m).trans (List.append_nil _).symm
  | close n =>
    refine h.perform (.close n) _ (fun notes _ hnotes => ?_) nofun nofun nofun
    refine hnotes.cons (fun _ _ => rfl) (fun _ => rfl) (fun m => ?_) fun m => ?_
    · exact congrArg (fun l => if n = m then none else l) (hnotes.limit m)
    · exact (hnotes.delivered m).trans (List.append_nil _).symm
  | send n line =>
    rw [Diary.next]
    split
    · exact h.effect (submitLine_effect d.desk n line)
    · exact h
  | drain n =>
    refine h.perform (.drain n) _ (fun notes _ hnotes => ?_) nofun nofun ?_
    · refine hnotes.cons (fun _ _ => rfl) (fun _ => rfl) hnotes.limit fun m => ?_
      rw [Hub.perform, Hub.delivered, hnotes.delivered, told]
      simp [Record.takes, Record.stored?, Record.done?]
    · rintro _ _ ⟨⟩
      rfl

theorem recorded_empty : Recorded Service.empty.hub [] where
  noted := ⟨[], Hub.booked_ofEvents _, Hub.queued_ofEvents _, mirrors_nil⟩
  negotiated n h := by simp [Service.empty, Hub.isNegotiated, Hub.session?, Hub.ofEvents] at h
  tags _ _ _ h := by simp at h
  drains _ _ _ h := by simp at h

/-- After every run the sessions are as the past says. -/
theorem recorded_run (actions : List Action) : Recorded (run actions).hub (run actions).past := by
  have hfold : ∀ d : Diary, Recorded d.hub d.past →
      Recorded (actions.foldl Diary.next d).hub (actions.foldl Diary.next d).past := by
    induction actions with
    | nil => exact fun _ h => h
    | cons action rest ih => exact fun d h => ih (d.next action) (h.next action)
  exact hfold ⟨⟨.empty, []⟩, []⟩ recorded_empty

/-- Whatever clients do, in whatever order, the active subscriptions of a session are those that it
obtained and has not given back, and what waits for it is the newest of what it was told: one
message for each stored shape and each subscription that it had then. What it took it was told by
then. The tag that it is answered is that of the new subscription. All this happens only to a
session that was answered before that it negotiated. -/
theorem events_gated (actions : List Action) :
    let hub := (run actions).hub
    let past := (run actions).past
    (∀ n, hub.active n = (watching n past).map (·, ShapeChanged.event) ∧ (watching n past).Nodup) ∧
    (∀ n, hub.waiting n = mailbox n past) ∧
    (∀ n, hub.active n ≠ [] ∨ hub.waiting n ≠ [] → Negotiated n past) ∧
    (∀ n taken earlier, .drained n taken :: earlier <:+ past →
      taken = mailbox n earlier ∧ (taken ≠ [] → Negotiated n earlier)) ∧
    ∀ n record earlier, record :: earlier <:+ past → record.does "watch-shape" n →
      Negotiated n earlier ∧
        ∃ d ∈ record.done?, d.value = .int (Int64.ofNat (obtained n earlier)).toInt := by
  intro hub past
  have h : Recorded hub past := recorded_run actions
  refine ⟨fun n => ⟨h.active n, h.nodup_watching n⟩, h.waiting, fun n hn => ?_,
    fun n taken earlier hsuffix => ⟨h.drains n taken earlier hsuffix, fun htaken => ?_⟩, h.tags⟩
  · rcases hn with hactive | hwaiting
    · rw [h.active] at hactive
      exact negotiated_of_watching (h.gate List.suffix_rfl n) (by simpa using hactive)
    · rw [h.waiting] at hwaiting
      exact negotiated_of_mailbox (h.gate List.suffix_rfl n) hwaiting
  · have hearlier : earlier <:+ past := (List.suffix_cons _ _).trans hsuffix
    rw [h.drains n taken earlier hsuffix] at htaken
    exact negotiated_of_mailbox (h.gate hearlier n) htaken

/-- A session negotiates, watches and stores a shape of one point, and takes what waits. -/
def visit : List Action :=
  let point : Json := .object [("x", .int 0), ("y", .int 0)]
  let shape : Json :=
    .object [("name", .string "dot"), ("points", .array [point]), ("color", .int 2)]
  [.open 2, .send 0 (Request.text ⟨"qmp_capabilities", [], none⟩),
    .send 0 (Request.text ⟨"watch-shape", [], none⟩),
    .send 0 (Request.text ⟨"put-shape", [("shape", shape)], none⟩), .drain 0]

/-- Whether the latest is that a session took one message, which tells of a shape. There is no test
that two forms are equal, but those without floats can be taken apart. -/
def tookShape (n tag : Nat) (name : String) (color : Int) : List Record → Bool
  | .drained m [⟨event, .object [(k, .string s), (l, .int c)], t⟩] :: _ => decide
    (m = n ∧ event = ShapeChanged.event ∧ k = "name" ∧ s = name ∧ l = "color" ∧ c = color ∧ t = tag)
  | _ => false

theorem exists_of_tookShape {n tag : Nat} {name : String} {color : Int} {past : List Record}
    (h : tookShape n tag name color past) : ∃ earlier, past = .drained n [⟨ShapeChanged.event,
      .object [("name", .string name), ("color", .int color)], tag⟩] :: earlier := by
  unfold tookShape at h
  split at h
  · obtain ⟨rfl, rfl, rfl, rfl, rfl, rfl, rfl⟩ := of_decide_eq_true h
    exact ⟨_, rfl⟩
  · cases h

/-- Who watches is told of the own shape as well. -/
theorem events_gated_visit :
    let taken : List Delivery :=
      [⟨"SHAPE_CHANGED", .object [("name", .string "dot"), ("color", .int 2)], 0⟩]
    ∃ earlier, (run visit).past = .drained 0 taken :: earlier ∧ taken = mailbox 0 earlier ∧
      Negotiated 0 earlier := by
  intro taken
  obtain ⟨earlier, hpast⟩ : ∃ earlier, (run visit).past = .drained 0 taken :: earlier :=
    exists_of_tookShape (by decide +kernel)
  obtain ⟨-, -, -, hdrains, -⟩ := events_gated visit
  obtain ⟨hmailbox, hnegotiated⟩ := hdrains 0 taken earlier (hpast ▸ List.suffix_rfl)
  exact ⟨earlier, hpast, hmailbox, hnegotiated (List.cons_ne_nil _ _)⟩

end RpcSchema.Drawing
