import RpcSchema.Proofs.Drawing.Operations
import RpcSchema.Proofs.Drawing.RoundTrip
import RpcSchema.Proofs.Rpc.Atomicity
import RpcSchema.Proofs.Rpc.Wiring

/-!
# Requests of the drawing service that fail without a trace

Whatever line a session sends, if it is answered with an error then the service and all sessions are
as they were before it. A command reads its arguments, does its operation and writes the result, and
each of these may fail.

Reading changes nothing. Of the operations, some fail before they change anything. Closing a file
and ending a subscription change the state first, but fail just if there was nothing to take away.
An operation that has returned is done, and its result may yet have no written form. Only a float
that is not finite has none, and of the operations that change the state none returns a float.

## Main results

* `atomic_putShape`, `atomic_openFile`, `atomic_closeFile`, `atomic_putEvent` — no operation leaves
  a trace if it fails
* `atomic_written` — nor does writing the result
* `commands_atomic` — no command leaves one
* `failed_line_atomic` — a line that is answered with an error leaves everything as it was
-/

namespace RpcSchema.Drawing

open RpcSchema.Wire
open Attempt (keeps_get keeps_lift keeps_pure)

/-! ### Operations -/

theorem atomic_putShape (shape : Shape) : (Service.putShape shape).Atomic := by
  refine Attempt.atomic_of_forall fun s => ?_
  rw [Service.putShape_on]
  split
  · exact .inl rfl
  · exact .inr ⟨_, rfl⟩

theorem atomic_openFile (path : String) : (Service.openFile path).Atomic := by
  refine Attempt.atomic_of_forall fun s => ?_
  rw [Service.openFile_on]
  split
  · exact .inl rfl
  · exact .inr ⟨_, rfl⟩

/-- A handle that is not open is taken away from handles that do not have it. -/
theorem atomic_closeFile (file : FileHandle) : (Service.closeFile file).Atomic := by
  refine Attempt.atomic_of_forall fun s => ?_
  by_cases hopen : s.openFiles.any (fileHandle · == file)
  · rw [Service.closeFile_on, if_pos hopen]
    exact .inr ⟨_, rfl⟩
  · rw [Service.closeFile_on_of_forall_ne (by simpa using hopen)]
    exact .inl rfl

theorem keeps_watchShapes (session : Nat) : (Service.watchShapes session).Keeps id := by
  intro s
  rw [Service.watchShapes_on]
  split <;> rfl

theorem atomic_subscribe (session channel : Nat) : (Service.subscribe session channel).Atomic :=
  Attempt.atomic_of_ok fun s => ⟨.ofNat (s.hub.subscribe session channel).2, rfl⟩

theorem atomic_putEvent (session : Nat) (tag : Int64) :
    (Service.putEvent session tag).Atomic := by
  intro s error herror
  rw [Service.putEvent_on] at herror ⊢
  rw [Hub.unsubscribe_of_error herror]

/-! ### Commands -/

section

variable {α : Type} [Wire α] {operation : Attempt Service α}

theorem keeps_written {τ : Type} {part : Service → τ} (h : operation.Keeps part) :
    (written operation).Keeps part :=
  h.bind fun v => keeps_lift (toWire v)

/-- What an operation returns can be written if it holds no floats that are not finite. -/
theorem atomic_written [HasFloats α] [Faithful α] (h : operation.Atomic)
    (hfinite : ∀ v : α, FloatsFinite v) : (written operation).Atomic :=
  h.bind_of_ok fun v _ => (Faithful.exists_toWire v).mpr (hfinite v)

end

/-- No command leaves a trace if it fails. -/
theorem commands_atomic : commands.Atomic := by
  simp only [Commands.Atomic, commands, List.forall_mem_cons]
  refine ⟨?getPoint, ?putShape, ?queryFlags, ?describe, ?openFile, ?closeFile, ?listColors, ?echo,
    ?ping, ?negotiate, ?watchShapes, ?putEvent, List.forall_mem_nil _⟩
  -- these change nothing, and two of them return what may hold floats
  case getPoint =>
    refine Handler.atomic_sync fun _ => (keeps_written ?_).atomic
    exact (keeps_lift _).bind fun name => keeps_get.bind fun s => keeps_lift (s.point name)
  case queryFlags => exact Handler.atomic_sync fun _ => (keeps_written (keeps_lift _)).atomic
  case describe =>
    exact Handler.atomic_sync fun _ =>
      (keeps_written ((keeps_lift _).bind fun _ => keeps_pure _)).atomic
  case listColors | echo =>
    exact Handler.atomic_sync fun _ => (keeps_written (keeps_pure _)).atomic
  case ping => exact fun _ _ s => ⟨s, _, fun _ => rfl, fun _ _ => rfl⟩
  -- all others return no floats
  case putShape =>
    refine Handler.atomic_sync fun _ => atomic_written ?_ fun _ => List.forall_mem_nil _
    exact (keeps_lift _).bind_atomic atomic_putShape
  case openFile =>
    refine Handler.atomic_sync fun _ => atomic_written ?_ fun _ => List.forall_mem_nil _
    exact (keeps_lift _).bind_atomic atomic_openFile
  case closeFile =>
    refine Handler.atomic_sync fun _ => atomic_written ?_ fun _ => List.forall_mem_nil _
    exact (keeps_lift _).bind_atomic atomic_closeFile
  case negotiate =>
    refine Handler.atomic_stateful fun _ _ => atomic_written ?_ fun _ => List.forall_mem_nil _
    exact Attempt.atomic_of_ok fun s => ⟨(), rfl⟩
  case watchShapes =>
    refine Handler.atomic_stateful fun session _ =>
      atomic_written ?_ fun _ => List.forall_mem_nil _
    exact (keeps_watchShapes session).bind_atomic (atomic_subscribe session)
  case putEvent =>
    refine Handler.atomic_stateful fun session _ =>
      atomic_written ?_ fun _ => List.forall_mem_nil _
    exact (keeps_lift _).bind_atomic (atomic_putEvent session)

/-! ### Lines -/

/-- Whatever line a session sends in whatever state, it is answered at once, and if the answer is an
error then all is as before: the shapes, the files, the sessions with their subscriptions and
queues, and the connections of the channel. -/
theorem failed_line_atomic (desk : Desk Service) (session : Nat) (line : String) :
    ∃ text, (desk.handleLine commands session line).2 = some text ∧
      (Response.IsError text → (desk.handleLine commands session line).1.state = desk.state) := by
  obtain ⟨after, text, hline, hatomic⟩ :=
    Desk.handleLine_atomic commands_atomic session line desk.state
  obtain ⟨hafter, htext⟩ := hline desk rfl
  exact ⟨text, htext, fun herror => hafter.trans (hatomic herror)⟩

/-- A file without a path is not opened, and the next one gets the number that it would have got. -/
theorem failed_line_atomic_openFile :
    let line := Request.text ⟨"open-file", [("path", .string "")], none⟩
    let service : Service := { Service.empty.openSession with opened := 1, openFiles := [3] }
    ∃ text, (Desk.handleLine ⟨service, []⟩ commands 0 line).2 = some text ∧
      Response.IsError text ∧
      (Desk.handleLine ⟨service, []⟩ commands 0 line).1.state = service := by
  intro line service
  obtain ⟨text, htext, hatomic⟩ := failed_line_atomic ⟨service, []⟩ 0 line
  have herror : Response.IsError text := by
    have hparse : Request.parse? line = some ⟨"open-file", [("path", .string "")], none⟩ :=
      Request.parse?_text (.object (by decide) (List.forall_mem_singleton.mpr (.string "")))
        isIdentification_none
    rw [Desk.handleLine_snd, Desk.answer?, hparse] at htext
    obtain rfl := Option.some.inj htext
    exact Response.isError_text_ofResult.mpr ⟨_, rfl⟩
  exact ⟨text, htext, herror, hatomic herror⟩

end RpcSchema.Drawing
