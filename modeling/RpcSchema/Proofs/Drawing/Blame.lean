import RpcSchema.Proofs.Drawing.Faults
import RpcSchema.Proofs.Drawing.Operations
import RpcSchema.Proofs.Rpc.Bookkeeping
import RpcSchema.Proofs.Rpc.Replies

/-!
# Replies that name a parameter

A line may be wrong in many ways, and if its reply blames a parameter then the name of the parameter
tells where. Either an argument cannot be read, and then it is the last key on the way to the fault.
Or the operation refuses an argument, and then it is the key of what it refuses. The name is never
that of a parameter that is not known, since every way begins with the key of an argument.

## Main definitions

* `parameters` — the arguments of a command with their types
* `Blame` — the way to what a command is blamed for in its arguments, and the cause
* `Named` — a parameter that is the last key on such a way

## Main results

* `commands_named` — errors of commands name such a parameter
* `returned_of_blame` — a command that has something to blame returns that error
* `reply_blames` — both for the replies to lines
-/

namespace RpcSchema.Drawing

open Json (Members innermostKey)
open RpcSchema.Wire

/-! ### Arguments -/

/-- The arguments that a command reads, with their types. -/
def parameters : String → List (String × WireType)
  | "get-point" => [("name", .str)]
  | "put-shape" => [("shape", .shape)]
  | "query-flags" => [("flags", .flags)]
  | "describe" => [("geometry", .geometry)]
  | "open-file" => [("path", .str)]
  | "close-file" => [("file", .fileHandle)]
  | "guest-ping" => [("delay", .int)]
  | "put-event" => [("tag", .int)]
  | _ => []

theorem parameter_ne_unknown {command key : String} {type : WireType}
    (h : (key, type) ∈ parameters command) : key ≠ RpcError.unknownParameter := by
  unfold parameters at h
  split at h <;> simp only [List.mem_singleton, List.not_mem_nil] at h <;> obtain ⟨rfl, -⟩ := h <;>
    decide

/-- The way to what is wrong in the arguments of a command, and what was expected there. -/
inductive Blame (s : Service) (session : Nat) : String → Members → List Json.Step → Cause → Prop
  | argument {command key : String} {type : WireType} {arguments : Members} {v : Json}
    {way : List Json.Step} {cause : Cause} (hkey : (key, type) ∈ parameters command)
    (hget : arguments.get? key = some v) (h : WireType.Fault type v way cause) :
    Blame s session command arguments (.key key :: way) cause
  | noPoints {arguments : Members} {shape : Shape}
    (h : required Shape arguments "shape" = .ok shape) (hpoints : shape.points = []) :
    Blame s session "put-shape" arguments [.key "shape", .key "points"]
      (.value "at least one point")
  | noPath {arguments : Members} (h : required String arguments "path" = .ok "") :
    Blame s session "open-file" arguments [.key "path"] (.value "a non-empty path")
  | notOpen {arguments : Members} {file : FileHandle}
    (h : required FileHandle arguments "file" = .ok file)
    (hclosed : ∀ n ∈ s.openFiles, fileHandle n ≠ file) :
    Blame s session "close-file" arguments [.key "file"] (.value "an open file handle")
  | negative {arguments : Members} {delay : Int64}
    (h : optional Int64 arguments "delay" = .ok (some delay)) (hdelay : delay < 0) :
    Blame s session "guest-ping" arguments [.key "delay"] (.value "a non-negative delay")
  | inactive {arguments : Members} {tag : Int64} (h : required Int64 arguments "tag" = .ok tag)
    (htag : ∀ x ∈ s.hub.active session, (x.1 : Int) ≠ tag.toInt) :
    Blame s session "put-event" arguments [.key "tag"] (.value "an active event handle")
  /-- flags are sent back, and a float that is not finite cannot be -/
  | notFinite {arguments : Members} {flags : Flags} {x : Float}
    (h : required Flags arguments "flags" = .ok flags) (hd : flags.d = some x)
    (hx : ¬ x.isFinite) :
    Blame s session "query-flags" arguments [.key "flags", .key "d"] (.value "a finite number")

/-- A parameter is the last key on the way to what is wrong. -/
def Named (s : Service) (session : Nat) (command : String) (arguments : Members) (name : String)
    (cause : Cause) : Prop :=
  ∃ way, Blame s session command arguments way cause ∧ innermostKey way = some name ∧
    name ≠ RpcError.unknownParameter

section

variable {s : Service} {session : Nat} {command key : String} {arguments : Members}
  (type : WireType) (hkey : (key, type) ∈ parameters command)

include hkey

/-- A fault in an argument is named by the argument if there is no key in it. -/
theorem named_argument {v : Json} (hget : arguments.get? key = some v) {name : String}
    {cause : Cause} (h : type.Explains v name cause) :
    Named s session command arguments (nameAt key name) cause := by
  obtain ⟨way, hfault, rfl⟩ := h
  rw [nameAt_innermostKey key hfault.innermostKey_ne]
  refine ⟨.key key :: way, .argument hkey hget hfault, rfl, ?_⟩
  cases hway : innermostKey way with
  | none => exact parameter_ne_unknown hkey
  | some inner => exact hfault.innermostKey_ne inner hway

theorem blames_argument :
    Blames (Named s session command arguments) (required type.Value arguments key) :=
  blames_required fun v hget => (type.accountable v).imp fun _ _ => named_argument type hkey hget

theorem blames_optionalArgument :
    Blames (Named s session command arguments) (optional type.Value arguments key) :=
  blames_optional fun v hget => (type.accountable v).imp fun _ _ => named_argument type hkey hget

end

/-! ### Operations -/

section

variable {R : String → Cause → Prop} {s : Service} {session : Nat} {arguments : Members}

/-- An argument is to blame, or the operation that is given it. -/
theorem blames_given {α β : Type} {s : Service} {argument : Except RpcError β}
    {operation : β → Attempt Service α} (hargument : Blames R argument)
    (h : ∀ v, argument = .ok v → Blames R ((operation v).on s).2) :
    Blames R ((liftM argument >>= operation : Attempt Service α).on s).2 := by
  rw [Attempt.on_lift_bind_snd]
  exact blames_bind hargument h

/-- A point that is not found is nobody's fault. -/
theorem blames_point (s : Service) (name : String) : Blames R (s.point name) := by
  rw [Service.point]
  split
  · exact blames_ok _
  · split
    · exact blames_ok _
    · exact blames_other (by simp [RpcError.className, RpcError.parameterClasses])

theorem blames_putShape {shape : Shape} (h : required Shape arguments "shape" = .ok shape) :
    Blames (Named s session "put-shape" arguments) ((Service.putShape shape).on s).2 := by
  rw [Service.putShape_on]
  split
  · rename_i hpoints
    exact blames_error (.value _)
      ⟨_, .noPoints h (List.isEmpty_iff.mp hpoints), rfl, by decide⟩
  · exact blames_ok _

theorem blames_openFile {path : String} (h : required String arguments "path" = .ok path) :
    Blames (Named s session "open-file" arguments) ((Service.openFile path).on s).2 := by
  rw [Service.openFile_on]
  split
  · rename_i hpath
    obtain rfl := String.isEmpty_iff.mp hpath
    exact blames_error (.value _) ⟨_, .noPath h, rfl, by decide⟩
  · exact blames_ok _

theorem blames_closeFile {file : FileHandle}
    (h : required FileHandle arguments "file" = .ok file) :
    Blames (Named s session "close-file" arguments) ((Service.closeFile file).on s).2 := by
  rw [Service.closeFile_on]
  split
  · exact blames_ok _
  · rename_i hclosed
    exact blames_error (.value _)
      ⟨_, .notOpen h (by simpa using hclosed), rfl, by decide⟩

theorem blames_ping {delay : Option Int64}
    (h : optional Int64 arguments "delay" = .ok delay) :
    Blames (Named s session "guest-ping" arguments) (Service.ping delay) := by
  rw [Service.ping]
  split
  · rename_i hdelay
    cases delay with
    | none => exact absurd hdelay (by decide)
    | some delay => exact blames_error (.value _) ⟨_, .negative h hdelay, rfl, by decide⟩
  · exact blames_ok _

/-- A subscription can be ended just if its tag is active. -/
theorem unsubscribe_eq_error_iff {hub : Hub} {tag : Int64} {error : RpcError} :
    (hub.unsubscribe session tag).2 = .error error ↔
      (∀ x ∈ hub.active session, (x.1 : Int) ≠ tag.toInt) ∧ error = Hub.inactiveTag := by
  rw [Hub.unsubscribe_eq, Hub.active_eq, List.forall_mem_map]
  cases hfind : (hub.subscriptions session).find? fun x => (x.tag : Int) == tag.toInt with
  | none =>
    simp only [List.find?_eq_none, beq_iff_eq] at hfind
    simp only [Except.error.injEq, eq_comm (a := Hub.inactiveTag)]
    exact ⟨fun h => ⟨hfind, h⟩, And.right⟩
  | some x =>
    have htag : (x.tag : Int) = tag.toInt := by simpa using List.find?_some hfind
    exact ⟨fun h => (nomatch h), fun ⟨h, _⟩ => absurd htag (h x (List.mem_of_find?_eq_some hfind))⟩

theorem blames_putEvent {tag : Int64} (h : required Int64 arguments "tag" = .ok tag) :
    Blames (Named s session "put-event" arguments) ((Service.putEvent session tag).on s).2 := by
  rw [Service.putEvent_on]
  cases hended : (s.hub.unsubscribe session tag).2 with
  | ok _ => exact blames_ok _
  | error error =>
    obtain ⟨htag, rfl⟩ := unsubscribe_eq_error_iff.mp hended
    exact blames_error (.value _) ⟨_, .inactive h htag, rfl, by decide⟩

/-- A session that has not negotiated is told so, and not that its arguments are wrong. -/
theorem blames_watchShapes (s : Service) (session : Nat) :
    Blames R ((Service.watchShapes session >>= Service.subscribe session).on s).2 := by
  rw [Service.watchShapes_subscribe_on]
  split
  · exact blames_ok _
  · exact blames_other (by decide)

/-! ### Results -/

variable {α : Type} [Wire α]

theorem blames_toWire [HasFloats α] [Faithful α] {v : α} (h : FloatsFinite v) :
    Blames R (toWire v) := by
  obtain ⟨j, hj⟩ := (Faithful.exists_toWire v).mpr h
  rw [hj]
  exact blames_ok j

/-- Of the flags, only a number may have no form. -/
theorem exists_toWire_flags (flags : Flags) : ∃ members : Members,
    toWire flags = (insertSome members "d" flags.d).map Json.object := by
  have hplain {β : Type} [Wire β] (hform : ∀ v : β, ∃ j, toWire v = .ok j) (members : Members)
      (key : String) (value : Option β) : ∃ more, insertSome members key value = .ok more := by
    cases value with
    | none => exact ⟨members, rfl⟩
    | some v =>
      obtain ⟨j, hj⟩ := hform v
      exact ⟨Members.insert key j members, by rw [insertSome, Wire.insert, hj]; rfl⟩
  obtain ⟨a, ha⟩ := hplain (fun _ => ⟨_, rfl⟩) [] "a" flags.a
  obtain ⟨b, hb⟩ := hplain (fun _ => ⟨_, rfl⟩) a "b" flags.b
  obtain ⟨c, hc⟩ := hplain (fun _ => ⟨_, rfl⟩) b "c" flags.c
  refine ⟨c, (bind_of_eq_ok ha _).trans ((bind_of_eq_ok hb _).trans ?_)⟩
  refine (bind_of_eq_ok hc _).trans ?_
  cases insertSome c "d" flags.d <;> rfl

theorem blames_writtenFlags {flags : Flags}
    (h : required Flags arguments "flags" = .ok flags) :
    Blames (Named s session "query-flags" arguments) (toWire flags) := by
  obtain ⟨members, hform⟩ := exists_toWire_flags flags
  rw [hform]
  refine blames_map (blames_insertSome fun x hd => ?_) _
  rw [toWire_float]
  split
  · exact blames_ok _
  · rename_i hx
    exact blames_error (.value _) ⟨_, .notFinite h hd hx, rfl, by decide⟩

/-- An operation is to blame, or writing what it gave. -/
theorem blames_written {s : Service} {operation : Attempt Service α}
    (h : Blames R (operation.on s).2)
    (hwrite : ∀ value, (operation.on s).2 = .ok value → Blames R (toWire value)) :
    Blames R ((written operation).on s).2 := by
  rw [written_on]
  exact blames_bind h hwrite

end

/-! ### Commands -/

/-- Every command returns at once, and its errors name the parameter that they are about. -/
theorem commands_named : ∀ entry ∈ commands, ∀ session number arguments (s : Service),
    ∃ after result, entry.2.returned session number arguments s [] = (after, some result) ∧
      Blames (Named s session entry.1 arguments) result := by
  simp only [commands, List.forall_mem_cons]
  refine ⟨?getPoint, ?putShape, ?queryFlags, ?describe, ?openFile, ?closeFile, ?listColors, ?echo,
    ?ping, ?negotiate, ?watchShapes, ?putEvent, List.forall_mem_nil _⟩
  case getPoint =>
    refine fun _ _ arguments s => ⟨_, _, rfl, blames_written ?_ fun p _ => blames_toWire ?_⟩
    · exact blames_given (blames_argument .str (.head [])) fun name _ => blames_point s name
    · simp [FloatsFinite, floats]
  case putShape =>
    refine fun _ _ arguments s => ⟨_, _, rfl, blames_written ?_ fun _ _ => blames_ok _⟩
    exact blames_given (blames_argument .shape (.head [])) fun shape hshape =>
      blames_putShape hshape
  case queryFlags =>
    refine fun _ _ arguments s => ⟨_, _, rfl, blames_written ?_ fun flags hflags => ?_⟩
    · exact blames_argument .flags (.head [])
    · exact blames_writtenFlags hflags
  case describe =>
    refine fun _ _ arguments s => ⟨_, _, rfl, blames_written ?_ fun _ _ => blames_ok _⟩
    exact blames_given (blames_argument .geometry (.head [])) fun _ _ => blames_ok _
  case openFile =>
    refine fun _ _ arguments s => ⟨_, _, rfl, blames_written ?_ fun _ _ => blames_ok _⟩
    exact blames_given (blames_argument .str (.head [])) fun path hpath => blames_openFile hpath
  case closeFile =>
    refine fun _ _ arguments s => ⟨_, _, rfl, blames_written ?_ fun _ _ => blames_ok _⟩
    exact blames_given (blames_argument .fileHandle (.head [])) fun file hfile =>
      blames_closeFile hfile
  case ping =>
    refine fun _ _ arguments s => ⟨_, _, rfl, ?_⟩
    refine blames_bind (blames_optionalArgument .int (.head [])) fun delay hdelay => ?_
    exact blames_bind (blames_ping hdelay) fun _ _ => blames_ok _
  case watchShapes =>
    exact fun session _ _ s =>
      ⟨_, _, rfl, blames_written (blames_watchShapes s session) fun _ _ => blames_ok _⟩
  case putEvent =>
    refine fun session _ arguments s => ⟨_, _, rfl, blames_written ?_ fun _ _ => blames_ok _⟩
    exact blames_given (blames_argument .int (.head [])) fun tag htag => blames_putEvent htag
  case listColors | echo | negotiate => exact fun _ _ _ s => ⟨_, _, rfl, blames_ok _⟩

/-- Whatever command is asked for, it returns at once, and an error names the parameter that it is
about. -/
theorem returned_named (session number : Nat) (command : String) (arguments : Members)
    (s : Service) : ∃ after result,
      commands.returned session number command arguments s [] = (after, some result) ∧
        Blames (Named s session command arguments) result := by
  obtain ⟨handler, hmem, heq⟩ | heq := commands.returned_cases command
  · rw [heq]
    exact commands_named (command, handler) hmem session number arguments s
  · exact ⟨_, _, heq session number arguments s [],
      blames_other (by simp [RpcError.className, RpcError.parameterClasses])⟩

/-! ### What is blamed -/

section

variable {s : Service} {session : Nat} {command : String} {arguments : Members} {error : RpcError}
  {α : Type} [Wire α] {operation : Members → Attempt Service α} {after : Service}
  (hlookup : commands.lookup command =
    some (.sync fun arguments => (written (operation arguments)).on))
  (number : Nat)

include hlookup

/-- A command whose operation fails returns its error. -/
theorem returned_of_error (h : (operation arguments).on s = (after, .error error)) :
    commands.returned session number command arguments s [] = (after, some (.error error)) :=
  Commands.returned_sync hlookup (Attempt.on_bind_of_error h _)

theorem returned_of_ok {value : α} (h : (operation arguments).on s = (after, .ok value)) :
    commands.returned session number command arguments s [] = (after, some (toWire value)) :=
  Commands.returned_sync hlookup (Attempt.on_bind_of_ok h _)

end

theorem returned_putEvent_of_error {s : Service} {session : Nat} {arguments : Members}
    {error : RpcError} (number : Nat)
    (h : (liftM (required Int64 arguments "tag") >>= Service.putEvent session).on s =
      (s, .error error)) :
    commands.returned session number "put-event" arguments s [] = (s, some (.error error)) :=
  congrArg (fun out : Service × CallResult => (out.1, some out.2)) (Attempt.on_bind_of_error h _)

/-- Where there is something to blame, its error is the one that is given. -/
theorem returned_of_blame {s : Service} {session : Nat} {command : String} {arguments : Members}
    {way : List Json.Step} {cause : Cause} (h : Blame s session command arguments way cause)
    (number : Nat) : commands.returned session number command arguments s [] =
      (s, some (.error (cause.error ((innermostKey way).getD RpcError.unknownParameter)))) := by
  cases h with
  | @argument _ key type _ v way _ hkey hget hfault =>
    have hread := WireType.read_of_fault hfault
    have hrequired := WireType.required_of_error hget hread
    have hoptional := WireType.optional_of_error hget hread
    rw [nameAt_innermostKey key hfault.innermostKey_ne] at hrequired hoptional
    unfold parameters at hkey
    split at hkey <;> simp only [List.mem_singleton, List.not_mem_nil, Prod.mk.injEq] at hkey <;>
      obtain ⟨rfl, rfl⟩ := hkey
    case h_3 => exact returned_of_error rfl number (congrArg (Prod.mk s) hrequired)
    case h_7 =>
      exact congrArg (fun result : CallResult => (s, some result)) (bind_of_eq_error hoptional _)
    case h_8 =>
      exact returned_putEvent_of_error number (Attempt.on_lift_bind_of_error hrequired _ s)
    all_goals exact returned_of_error rfl number (Attempt.on_lift_bind_of_error hrequired _ s)
  | @noPoints _ shape h hpoints =>
    refine returned_of_error rfl number ?_
    rw [Attempt.lift_bind_of_ok h, Service.putShape_on, hpoints]
    rfl
  | noPath h =>
    refine returned_of_error rfl number ?_
    rw [Attempt.lift_bind_of_ok h, Service.openFile_on]
    rfl
  | @notOpen _ file h hclosed =>
    refine returned_of_error rfl number ?_
    rw [Attempt.lift_bind_of_ok h, Service.closeFile_on_of_forall_ne hclosed]
    rfl
  | @negative _ delay h hdelay =>
    show (s, some (optional Int64 arguments "delay" >>= _)) = _
    have hping : Service.ping (some delay) =
        .error (.invalidValue "delay" "a non-negative delay") := if_pos hdelay
    exact congrArg (fun result : CallResult => (s, some result))
      ((bind_of_eq_ok h _).trans (bind_of_eq_error hping _))
  | inactive h htag =>
    refine returned_putEvent_of_error number ?_
    have herror := unsubscribe_eq_error_iff.mpr ⟨htag, rfl⟩
    rw [Attempt.lift_bind_of_ok h, Service.putEvent_on, Hub.unsubscribe_of_error herror]
    rfl
  | @notFinite _ flags x h hd hx =>
    obtain ⟨members, hform⟩ := exists_toWire_flags flags
    have hwrite : insertSome members "d" flags.d =
        .error (.invalidValue "d" "a finite number") := by
      rw [hd, insertSome, Wire.insert, toWire_float, if_neg hx]
      rfl
    rw [returned_of_ok rfl number (congrArg (Prod.mk s) h), hform, hwrite]
    rfl

/-! ### Lines -/

theorem outcome_ofResult_eq_error_iff {result : CallResult} {id : Option Json}
    {object : ErrorObject} : (Response.ofResult result id).outcome = .error object ↔
      ∃ error, result = .error error ∧ object = .of error := by
  cases result <;> simp [Response.ofResult, eq_comm]

/-- Whatever state the service and its sessions are in, and whatever line a session sends, there is
a reply at once. If it is an error that blames a parameter for its value, then the line is a request
and the name in the data of the error is the last key on the way to what is wrong in the arguments:
a value that does not fit its type, at any depth, or one that the operation refuses. It is not the
name of a parameter that is not known. And where there is something wrong in the arguments, this is
the error. -/
theorem reply_blames (desk : Desk Service) (session : Nat) (line : String) :
    let sent := desk.submitLine commands session line
    ∃ response, sent.1.wait sent.2 = some response ∧
      (desk.handleLine commands session line).2 = some response.text ∧
      (∀ error, response.outcome = .error error →
        error.className ∈ RpcError.parameterClasses →
          ∃ request way cause name, Request.parse? line = some request ∧
            Blame desk.state session request.execute request.arguments way cause ∧
            innermostKey way = some name ∧ name ≠ RpcError.unknownParameter ∧
            error = .of (cause.error name) ∧ error.data.get? "name" = some (.string name)) ∧
      ∀ request way cause name, Request.parse? line = some request →
        Blame desk.state session request.execute request.arguments way cause →
          innermostKey way = some name → response.outcome = .error (.of (cause.error name)) := by
  intro sent
  have hwait : sent.1.wait sent.2 = desk.answer? commands session line [] :=
    desk.wait_submitLine commands session line []
  rw [hwait, desk.handleLine_snd, Desk.answer?]
  cases hrequest : Request.parse? line with
  | none =>
    refine ⟨_, rfl, rfl, fun error herror hclass => ?_, ?_⟩
    · obtain ⟨_, ⟨⟩, rfl⟩ := outcome_ofResult_eq_error_iff.mp herror
      exact absurd hclass (by simp [ErrorObject.of, Desk.malformed, RpcError.className,
        RpcError.parameterClasses])
    · rintro _ _ _ _ ⟨⟩
  | some request =>
    obtain ⟨after, result, hreturned, hnamed⟩ :=
      returned_named session desk.replies.length request.execute request.arguments desk.state
    simp only [hreturned, Option.map_some]
    refine ⟨_, rfl, rfl, fun error herror hclass => ?_, ?_⟩
    · obtain ⟨e, he, rfl⟩ := outcome_ofResult_eq_error_iff.mp herror
      obtain ⟨name, cause, rfl, way, hblame, hname, hknown⟩ := hnamed e he hclass
      exact ⟨request, way, cause, name, rfl, hblame, hname, hknown, rfl, cause.name_data name⟩
    · rintro _ way cause name ⟨⟩ hblame hname
      have hresult := hreturned.symm.trans (returned_of_blame hblame desk.replies.length)
      rw [hname] at hresult
      cases hresult
      rfl

end RpcSchema.Drawing
