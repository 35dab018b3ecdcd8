import RpcSchema.Proofs.Drawing.Atomicity
import RpcSchema.Proofs.Success

/-!
# What a line does to the sessions

A session can send the drawing service any line. Whatever it is, it does one of a few things to the
sessions and their channel: negotiate for its own session, subscribe it, end one of its
subscriptions, or tell all subscribers of a shape; or it does nothing to them. Which of these it
does is seen from its command, its arguments and its result.

So this is the one place that goes through the commands. A statement about sessions over time only
goes through the effects.

## Main definitions

* `Done`, `done?` — a request that was answered with a result
* `Effect` — what a line does to the sessions

## Main results

* `commands_effect`, `returned_effect` — what commands do to the sessions
* `submitLine_effect` — what a line does to them
-/

namespace RpcSchema.Drawing

open Attempt (keeps_get keeps_lift keeps_pure)
open Json (Members)
open RpcSchema.Wire

/-! ### Requests and their results -/

/-- A request that was answered with a result. -/
structure Done where
  session : Nat
  command : String
  arguments : Members
  value : Json

/-- What was done for a line of a session, given the response to it: nothing if the line is no
request or the response is an error. -/
def done? (session : Nat) (line : String) : Option Response → Option Done
  | some ⟨.result value, _⟩ =>
    (Request.parse? line).map fun request => ⟨session, request.execute, request.arguments, value⟩
  | _ => none

/-- What is sent about a stored shape: its name, and the index of its color. -/
def shapeData (shape : Shape) : Json :=
  .object [("name", .string shape.name), ("color", .int (Labelled.index shape.color))]

/-- The commands that do something to sessions or their channel. -/
def sessionCommands : List String := ["put-shape", "qmp_capabilities", "watch-shape", "put-event"]

/-- What a line does to the sessions, where it is known what was done for it. -/
inductive Effect (hub : Hub) : Option Done → Hub → Prop
  | negotiated {d : Done} (hcommand : d.command = "qmp_capabilities") :
    Effect hub (some d) (hub.setNegotiated d.session true)
  /-- only a session that has negotiated subscribes; the result is its tag -/
  | subscribed {d : Done} (hcommand : d.command = "watch-shape")
    (hnegotiated : hub.isNegotiated d.session)
    (hvalue : d.value = .int (Int64.ofNat (hub.subscribe d.session shapeChannel).2).toInt) :
    Effect hub (some d) (hub.subscribe d.session shapeChannel).1
  | released {d : Done} {tag : Int64} {after : Hub} (hcommand : d.command = "put-event")
    (htag : required Int64 d.arguments "tag" = .ok tag)
    (hafter : hub.unsubscribe d.session tag = (after, .ok ())) : Effect hub (some d) after
  | told {d : Done} {shape : Shape} (hcommand : d.command = "put-shape")
    (hshape : required Shape d.arguments "shape" = .ok shape) :
    Effect hub (some d) (hub.emit shapeChannel (.ok (shapeData shape)))
  | kept {done : Option Done} (h : ∀ d ∈ done, d.command ∉ sessionCommands) : Effect hub done hub

/-- Where nothing was done, nothing changes. -/
theorem Effect.none (hub : Hub) : Effect hub none hub := .kept nofun

/-! ### Commands -/

/-- What was done by a command, if it succeeded. -/
def resultOf (session : Nat) (command : String) (arguments : Members) :
    CallResult → Option Done
  | .ok value => some ⟨session, command, arguments, value⟩
  | .error _ => none

section

variable {session : Nat} {command : String} {arguments : Members}

/-- The other commands have no effect if they keep the hub. -/
theorem effect_resultOf (hcommand : command ∉ sessionCommands) (hub : Hub) (result : CallResult) :
    Effect hub (resultOf session command arguments result) hub := by
  refine .kept fun d hd => ?_
  cases result with
  | error error => cases hd
  | ok value =>
    cases hd
    exact hcommand

variable {α : Type} [Wire α] {s : Service} {operation : Attempt Service α}

/-- An operation that fails has no effect, so only its success has to be looked at. -/
theorem effect_written (hatomic : operation.Atomic)
    (h : ∀ value, (operation.on s).2 = .ok value → ∃ j, toWire value = .ok j ∧
      Effect s.hub (some ⟨session, command, arguments, j⟩) (operation.on s).1.hub) :
    Effect s.hub (resultOf session command arguments ((written operation).on s).2)
      ((written operation).on s).1.hub := by
  rw [written_on]
  cases hresult : (operation.on s).2 with
  | error error =>
    rw [hatomic s error hresult]
    exact .none s.hub
  | ok value =>
    obtain ⟨j, hj, heffect⟩ := h value hresult
    show Effect s.hub (resultOf session command arguments (toWire value)) _
    rw [hj]
    exact heffect

theorem effect_written_kept (hcommand : command ∉ sessionCommands)
    (h : operation.Keeps Service.hub) (s : Service) :
    Effect s.hub (resultOf session command arguments ((written operation).on s).2)
      ((written operation).on s).1.hub := by
  rw [keeps_written h s]
  exact effect_resultOf hcommand s.hub _

end

theorem keeps_hub_openFile (path : String) : (Service.openFile path).Keeps Service.hub := by
  intro s
  rw [Service.openFile_on]
  split <;> rfl

theorem keeps_hub_closeFile (file : FileHandle) : (Service.closeFile file).Keeps Service.hub := by
  intro s
  rw [Service.closeFile_on]

/-- Every command returns at once and has an effect. -/
theorem commands_effect : ∀ entry ∈ commands, ∀ session number arguments (s : Service),
    ∃ after result, entry.2.returned session number arguments s [] = (after, some result) ∧
      Effect s.hub (resultOf session entry.1 arguments result) after.hub := by
  simp only [commands, List.forall_mem_cons]
  refine ⟨?getPoint, ?putShape, ?queryFlags, ?describe, ?openFile, ?closeFile, ?listColors, ?echo,
    ?ping, ?negotiate, ?watchShapes, ?putEvent, List.forall_mem_nil _⟩
  case putShape =>
    refine fun _ _ arguments s => ⟨_, _, rfl, ?_⟩
    refine effect_written ((keeps_lift _).bind_atomic atomic_putShape) fun _ hstored => ?_
    obtain ⟨shape, hshape, heq⟩ := Attempt.exists_lift_of_ok hstored
    rw [heq, Service.putShape_on] at hstored ⊢
    split at hstored
    · cases hstored
    · rename_i hpoints
      rw [if_neg hpoints]
      exact ⟨_, rfl, .told rfl hshape⟩
  case negotiate => exact fun _ _ _ s => ⟨_, _, rfl, .negotiated rfl⟩
  case watchShapes =>
    refine fun session _ _ s => ⟨_, _, rfl, ?_⟩
    refine effect_written ((keeps_watchShapes session).bind_atomic (atomic_subscribe session))
      fun value htag => ?_
    rw [Service.watchShapes_subscribe_on] at htag ⊢
    by_cases hnegotiated : s.hub.isNegotiated session
    · rw [if_pos hnegotiated] at htag ⊢
      cases htag
      exact ⟨_, rfl, .subscribed rfl hnegotiated rfl⟩
    · rw [if_neg hnegotiated] at htag
      cases htag
  case putEvent =>
    refine fun session _ arguments s => ⟨_, _, rfl, ?_⟩
    refine effect_written ((keeps_lift _).bind_atomic (atomic_putEvent session)) fun _ hended => ?_
    obtain ⟨tag, htag, heq⟩ := Attempt.exists_lift_of_ok hended
    rw [heq, Service.putEvent_on] at hended ⊢
    exact ⟨_, rfl, .released rfl htag (Prod.ext rfl hended)⟩
  -- all others keep the hub
  case ping => exact fun _ _ _ s => ⟨s, _, rfl, effect_resultOf (by decide) s.hub _⟩
  case getPoint =>
    refine fun _ _ _ s => ⟨_, _, rfl, effect_written_kept (by decide) ?_ s⟩
    exact (keeps_lift _).bind fun name => keeps_get.bind fun s => keeps_lift (s.point name)
  case queryFlags =>
    exact fun _ _ _ s => ⟨_, _, rfl, effect_written_kept (by decide) (keeps_lift _) s⟩
  case describe =>
    refine fun _ _ _ s => ⟨_, _, rfl, effect_written_kept (by decide) ?_ s⟩
    exact (keeps_lift _).bind fun _ => keeps_pure _
  case openFile =>
    refine fun _ _ _ s => ⟨_, _, rfl, effect_written_kept (by decide) ?_ s⟩
    exact (keeps_lift _).bind keeps_hub_openFile
  case closeFile =>
    refine fun _ _ _ s => ⟨_, _, rfl, effect_written_kept (by decide) ?_ s⟩
    exact (keeps_lift _).bind keeps_hub_closeFile
  case listColors | echo =>
    exact fun _ _ _ s => ⟨_, _, rfl, effect_written_kept (by decide) (keeps_pure _) s⟩

/-- Whatever command is asked for, it returns at once and has an effect. -/
theorem returned_effect (session number : Nat) (command : String) (arguments : Members)
    (s : Service) : ∃ after result,
      commands.returned session number command arguments s [] = (after, some result) ∧
        Effect s.hub (resultOf session command arguments result) after.hub := by
  obtain ⟨handler, hmem, heq⟩ | heq := commands.returned_cases command
  · rw [heq]
    exact commands_effect (command, handler) hmem session number arguments s
  · exact ⟨s, _, heq session number arguments s [], .none s.hub⟩

/-! ### Lines -/

theorem done?_ofResult {line : String} {request : Request}
    (hrequest : Request.parse? line = some request) (session : Nat) (result : CallResult)
    (id : Option Json) : done? session line (some (.ofResult result id)) =
      resultOf session request.execute request.arguments result := by
  cases result with
  | ok value =>
    rw [Response.ofResult, done?, hrequest]
    rfl
  | error error => rfl

/-- A line is answered at once, and what it does to the sessions is an effect. -/
theorem submitLine_effect (desk : Desk Service) (session : Nat) (line : String) :
    let sent := desk.submitLine commands session line
    Effect desk.state.hub (done? session line (sent.1.wait sent.2)) sent.1.state.hub := by
  intro sent
  cases hrequest : Request.parse? line with
  | none =>
    have hsent : sent = _ := desk.submitLine_of_malformed commands session line hrequest
    rw [hsent]
    exact .none desk.state.hub
  | some request =>
    obtain ⟨after, result, hreturned, heffect⟩ :=
      returned_effect session desk.replies.length request.execute request.arguments desk.state
    obtain ⟨hstate, hwait⟩ := Desk.submitLine_of_returned hrequest hreturned
    rw [hwait, hstate, done?_ofResult hrequest]
    exact heffect

end RpcSchema.Drawing
