import RpcSchema.Drawing.Commands

/-!
# What the operations of the drawing service do

One equation for each operation that has steps: the state that it leaves, and what comes of it. They
tell it of failures as well, since an operation that fails leaves a state too. All that is shown of
commands, calls and lines rests on these equations.

## Main results

* `Service.putShape_on`, `openFile_on`, `closeFile_on`, … — the operations
* `written_on` — an operation whose result is written
-/

namespace RpcSchema.Drawing

open RpcSchema.Wire

namespace Service

variable (s : Service)

theorem putShape_on (shape : Shape) : (putShape shape).on s =
    if shape.points.isEmpty then (s, .error (.invalidValue "points" "at least one point"))
    else (notify { s with shapes := s.shapes ++ [shape] } ⟨shape.name, shape.color⟩, .ok ()) := by
  rw [putShape]
  split <;> rfl

theorem openFile_on (path : String) : (openFile path).on s =
    if path.isEmpty then (s, .error (.invalidValue "path" "a non-empty path"))
    else
      ({ s with opened := s.opened + 1, openFiles := s.openFiles ++ [firstFile + s.opened] },
        .ok (fileHandle (firstFile + s.opened))) := by
  rw [openFile]
  split <;> rfl

/-- A handle is taken out before it is known whether it was there. -/
theorem closeFile_on (file : FileHandle) : (closeFile file).on s =
    ({ s with openFiles := s.openFiles.filter (fileHandle · != file) },
      if s.openFiles.any (fileHandle · == file) then .ok ()
      else .error (.invalidValue "file" "an open file handle")) := by
  show (if s.openFiles.any (fileHandle · == file) then pure () else throw _ :
    Attempt Service Unit).on _ = _
  split <;> rfl

/-- A file that is not open is not among the open ones, so taking it out changes nothing. -/
theorem closeFile_on_of_forall_ne {s : Service} {file : FileHandle}
    (h : ∀ n ∈ s.openFiles, fileHandle n ≠ file) :
    (closeFile file).on s = (s, .error (.invalidValue "file" "an open file handle")) := by
  have hkept : s.openFiles.filter (fileHandle · != file) = s.openFiles :=
    List.filter_eq_self.mpr (by simpa using h)
  rw [closeFile_on, hkept, if_neg (by simpa using h)]

theorem watchShapes_on (session : Nat) : (watchShapes session).on s =
    if s.hub.isNegotiated session then (s, .ok shapeChannel) else (s, .error notNegotiated) := by
  rw [watchShapes, Attempt.on_bind_of_ok (Attempt.on_get s)]
  split <;> rfl

/-- Only a session that has negotiated subscribes. -/
theorem watchShapes_subscribe_on (session : Nat) :
    (watchShapes session >>= subscribe session).on s =
      if s.hub.isNegotiated session then
        ({ s with hub := (s.hub.subscribe session shapeChannel).1 },
          .ok (.ofNat (s.hub.subscribe session shapeChannel).2))
      else (s, .error notNegotiated) := by
  rw [Attempt.on_bind, watchShapes_on]
  cases s.hub.isNegotiated session <;> rfl

theorem putEvent_on (session : Nat) (tag : Int64) : (putEvent session tag).on s =
    ({ s with hub := (s.hub.unsubscribe session tag).1 }, (s.hub.unsubscribe session tag).2) := rfl

end Service

theorem written_on {α : Type} [Wire α] (operation : Attempt Service α) (s : Service) :
    (written operation).on s = ((operation.on s).1, (operation.on s).2 >>= toWire) := by
  rw [written, Attempt.on_bind]
  cases operation.on s with
  | mk after result => cases result <;> rfl

end RpcSchema.Drawing
