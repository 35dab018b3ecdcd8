import RpcSchema.Proofs.Drawing.Operations
import RpcSchema.Proofs.Drawing.RoundTrip
import RpcSchema.Proofs.Rpc.Bounded
import RpcSchema.Proofs.Rpc.Transparency

/-!
# Calls through a transport are calls of the service

A client that asks for an operation through a transport gets the result, and leaves the service and
its sessions in the state, of the operation itself. Between the two lie the written arguments, the
command that reads them, the written result and the client that reads it. Each command reads just
what its call writes, and values are written faithfully, so all of this cancels out.

Only what the text of an envelope may lose is excluded: floats must be finite and read back. What an
echo is given is JSON already, so there the arguments as a whole must come back.

## Main definitions

* the instances of `Bounded` for the figures
* `Call.Carried` — calls whose arguments come back from their text
* `Call.direct` — a call done on the service: the state it leaves, and its result

## Main results

* `Call.returned_eq` — a command does what its call does
* `Call.written_perform` — the result of a call comes back from its written form
* `Call.request_eq_direct` — a call through a transport is the call itself
-/

namespace RpcSchema.Drawing

open Json (Members Fits)
open RpcSchema.Wire

/-! ### Figures -/

instance : Bounded Color 0 := bounded_of_labelled (by decide)

instance : Bounded GeometryKind 0 := bounded_of_labelled (by decide)

instance : Bounded Point 1 := by
  refine bounded_of_parts Point.parts Point.toWire_eq fun p hreads => ?_
  simp only [Point.parts, List.forall_mem_cons]
  refine ⟨.of (by decide) (hreads.mono ?_), .of (by decide) (hreads.mono ?_),
    .of (by decide) (hreads.mono ?_), List.forall_mem_nil _⟩ <;> simp [floats]

instance : Bounded Origin 1 := by
  refine bounded_of_parts Origin.parts Origin.toWire_eq fun o hreads => ?_
  simp only [Origin.parts, List.forall_mem_cons]
  refine ⟨.of (by decide) (hreads.mono ?_), .of (by decide) (hreads.mono ?_),
    List.forall_mem_nil _⟩ <;> simp [floats]

instance : Bounded Shape 3 := by
  refine bounded_of_parts Shape.parts Shape.toWire_eq fun s hreads => ?_
  simp only [Shape.parts, List.forall_mem_cons]
  refine ⟨.of (by decide) (hreads.mono ?_), .of (by decide) (hreads.mono ?_),
    .of (by decide) (hreads.mono ?_), .of (by decide) (hreads.mono ?_),
    List.forall_mem_nil _⟩ <;> simp [floats]

instance : Bounded Flags 1 := by
  refine bounded_of_parts Flags.parts Flags.toWire_eq fun f hreads => ?_
  simp only [Flags.parts, List.forall_mem_cons]
  refine ⟨.of (by decide) (hreads.mono ?_), .of (by decide) (hreads.mono ?_),
    .of (by decide) (hreads.mono ?_), .of (by decide) (hreads.mono ?_),
    List.forall_mem_nil _⟩ <;> simp [floats, List.subset_def]

instance : Bounded Geometry 4 := by
  refine bounded_of_parts Geometry.parts Geometry.toWire_eq fun g hreads => ?_
  refine List.forall_mem_cons.mpr ⟨.of (by decide) (hreads.mono (by simp [floats])), ?_⟩
  cases g <;>
    exact List.forall_mem_singleton.mpr (.of (by decide) (floatsReadBack_some.mpr hreads))

instance : Bounded FileHandle 1 where
  fits_toWire f j _ h := by
    cases h
    refine .object (by decide : [handleMarker, "data"].Nodup) ?_
    simpa using ⟨.string _, .int (isInteger_toInt f.number)⟩

/-! ### Calls -/

namespace Call

instance wire : (call : Call) → Wire call.Result
  | .getPoint _ => inferInstanceAs (Wire Point)
  | .queryFlags _ => inferInstanceAs (Wire Flags)
  | .describe _ => inferInstanceAs (Wire String)
  | .openFile _ => inferInstanceAs (Wire FileHandle)
  | .listColors => inferInstanceAs (Wire (List Color))
  | .echo _ | .ping _ | .watchShapes => inferInstanceAs (Wire Int64)
  | .putShape _ | .closeFile _ | .negotiate | .putEvent _ => inferInstanceAs (Wire Unit)

instance hasFloats : (call : Call) → HasFloats call.Result
  | .getPoint _ => inferInstanceAs (HasFloats Point)
  | .queryFlags _ => inferInstanceAs (HasFloats Flags)
  | .describe _ => inferInstanceAs (HasFloats String)
  | .openFile _ => inferInstanceAs (HasFloats FileHandle)
  | .listColors => inferInstanceAs (HasFloats (List Color))
  | .echo _ | .ping _ | .watchShapes => inferInstanceAs (HasFloats Int64)
  | .putShape _ | .closeFile _ | .negotiate | .putEvent _ => inferInstanceAs (HasFloats Unit)

instance faithful : (call : Call) → Faithful call.Result
  | .getPoint _ => inferInstanceAs (Faithful Point)
  | .queryFlags _ => inferInstanceAs (Faithful Flags)
  | .describe _ => inferInstanceAs (Faithful String)
  | .openFile _ => inferInstanceAs (Faithful FileHandle)
  | .listColors => inferInstanceAs (Faithful (List Color))
  | .echo _ | .ping _ | .watchShapes => inferInstanceAs (Faithful Int64)
  | .putShape _ | .closeFile _ | .negotiate | .putEvent _ => inferInstanceAs (Faithful Unit)

theorem read_eq (call : Call) (j : Json) : call.read j = ofWire j := by
  cases call <;> rfl

/-- The floats inside the arguments of a call, but for those of an echo, which are JSON. -/
instance : HasFloats Call where
  floats
    | .getPoint name => floats name
    | .putShape shape => floats shape
    | .queryFlags flags => floats flags
    | .describe geometry => floats geometry
    | .openFile path => floats path
    | .closeFile file => floats file
    | .ping delay => floats delay
    | .putEvent tag => floats tag
    | .echo _ | .listColors | .negotiate | .watchShapes => []

/-- A call done directly: the state it leaves, and its result. -/
def direct (s : Service) (session : Nat) (call : Call) : Service × Except RpcError call.Result :=
  (call.perform session).on s

/-- Calls whose arguments come back from their text. -/
def Carried : Call → Prop
  | .echo arguments => Fits partDepth (.object arguments)
  | call => FloatsReadBack call

variable {call : Call} {arguments : Members}

theorem Carried.floatsReadBack (h : call.Carried) : FloatsReadBack call := by
  cases call with
  | echo arguments => exact nofun
  | _ => exact h

/-! #### Arguments -/

/-- The arguments of a call can be written if their floats are finite. -/
theorem exists_arguments (h : FloatsFinite call) : ∃ arguments, call.arguments = .ok arguments := by
  cases call with
  | echo arguments => exact ⟨arguments, rfl⟩
  | listColors | negotiate | watchShapes => exact ⟨[], rfl⟩
  | ping delay => exact exists_insertSome.mpr h
  | getPoint a | putShape a | queryFlags a | describe a | openFile a | closeFile a | putEvent a =>
    have hsome : FloatsFinite (some a) := floatsFinite_some.mpr h
    exact exists_insertSome.mpr hsome

/-- The written arguments of a call fit into its request. -/
theorem fits_arguments (hcarried : call.Carried) (h : call.arguments = .ok arguments) :
    Fits partDepth (.object arguments) := by
  cases call with
  | echo given =>
    cases h
    exact hcarried
  | listColors | negotiate | watchShapes =>
    cases h
    exact fits_empty
  | ping delay => exact (fits_insertSome hcarried h).mono (by decide)
  | getPoint a | putShape a | queryFlags a | describe a | openFile a | closeFile a | putEvent a =>
    exact (fits_insertSome (floatsReadBack_some (v := a) |>.mpr hcarried) h).mono (by decide)

/-! #### Results -/

/-- The command of a call reads the arguments that the call has written, and does what the call
does directly. -/
theorem returned_eq (s : Service) (session number : Nat) (h : call.arguments = .ok arguments) :
    commands.returned session number call.command arguments s [] =
      (((written (call.perform session)).on s).1,
        some ((written (call.perform session)).on s).2) := by
  -- a command starts by reading its argument, from where on it is the call
  have hgiven {α β : Type} [Wire α] {argument : Except RpcError β} {v : β}
      (hargument : argument = .ok v) (operation : β → Attempt Service α) :
      (written (liftM argument >>= operation)).on s = (written (operation v)).on s := by
    rw [Attempt.lift_bind_of_ok hargument]
  cases call with
  | getPoint a | putShape a | describe a | openFile a | closeFile a =>
    exact Commands.returned_sync rfl (hgiven (required_of_insert h) _)
  | queryFlags a =>
    have hflags : required Flags arguments "flags" = .ok a := required_of_insert h
    refine Commands.returned_sync rfl ?_
    rw [hflags]
    rfl
  | listColors => exact Commands.returned_sync rfl rfl
  | echo given =>
    cases h
    exact Commands.returned_sync rfl rfl
  | ping delay =>
    have hdelay : optional Int64 arguments "delay" = .ok delay :=
      optional_of_part (part_of_insertSome h)
    refine Commands.returned_async rfl ?_
    rw [hdelay]
    show (s, Promise.given (Service.ping delay >>= toWire)) = _
    rw [perform]
    cases Service.ping delay <;> rfl
  | negotiate => exact Commands.returned_stateful rfl rfl
  | watchShapes => exact Commands.returned_stateful rfl rfl
  | putEvent tag =>
    have htag : required Int64 arguments "tag" = .ok tag := required_of_insert h
    exact Commands.returned_stateful rfl (hgiven htag _)

/-- Every float that a call returns is one of its arguments. -/
theorem floats_result {s : Service} {session : Nat} {value : call.Result}
    (h : (call.direct s session).2 = .ok value) : floats value ⊆ floats call := by
  cases call with
  | queryFlags flags =>
    cases h
    exact List.Subset.refl _
  | _ => simp [floats]

/-- The written result of a call fits into its response. -/
theorem fits_result {value : call.Result} {j : Json} (hreads : FloatsReadBack value)
    (h : toWire value = .ok j) : Fits partDepth j := by
  cases call <;> exact (Bounded.fits_toWire value j hreads h).mono (by decide)

/-- The response to a call carries what the call gives directly. -/
theorem written_perform (s : Service) (session : Nat) (hfinite : FloatsFinite call)
    (hcarried : call.Carried) :
    ((written (call.perform session)).on s).1 = (call.direct s session).1 ∧
      FitsResult ((written (call.perform session)).on s).2 ∧
      ((written (call.perform session)).on s).2 >>= call.read = (call.direct s session).2 := by
  have hreads : FloatsReadBack call := hcarried.floatsReadBack
  rw [written_on, ← direct]
  cases hdirect : (call.direct s session).2 with
  | error error => exact ⟨rfl, nofun, rfl⟩
  | ok value =>
    have hsub := floats_result hdirect
    obtain ⟨j, hj⟩ : ∃ j, toWire value = .ok j :=
      (Faithful.exists_toWire value).mpr fun x hx => hfinite x (hsub hx)
    have hfits : Fits partDepth j := fits_result (hreads.mono hsub) hj
    rw [bind_of_eq_ok rfl, hj]
    refine ⟨rfl, fun _ heq => Except.ok.inj heq ▸ hfits, ?_⟩
    show call.read j = .ok value
    rw [read_eq, Faithful.ofWire_toWire value j hj]

/-! #### Through the transport -/

/-- A call through a transport gives the client what the operation of the service gives, and leaves
the service and its sessions as the operation leaves them. -/
theorem request_eq_direct (desk : Desk Service) (session : Nat) (call : Call)
    (hfinite : FloatsFinite call) (hcarried : call.Carried) :
    (call.request desk session).1.state = (call.direct desk.state session).1 ∧
      (call.request desk session).2 = some (call.direct desk.state session).2 := by
  obtain ⟨arguments, harguments⟩ := exists_arguments hfinite
  obtain ⟨hstate, hfits, hread⟩ := written_perform desk.state session hfinite hcarried
  have hreturned := returned_eq desk.state session desk.replies.length harguments
  obtain ⟨hleft, -⟩ := desk.wait_after_submit commands session ⟨call.command, arguments, none⟩ []
  have hcall := Transport.call_eq commands desk session call.command
    (fits_arguments hcarried harguments) (by
      rw [hreturned]
      exact fun result hresult => Option.some.inj hresult ▸ hfits)
  simp only [hreturned] at hleft hcall
  rw [request, harguments]
  simp only [hcall]
  exact ⟨hleft.trans hstate, congrArg some hread⟩

/-- Flags, one of which is a float, come back as they were sent. -/
theorem request_eq_direct_flags :
    let flags : Flags := ⟨some true, none, some "x", some (-2.5)⟩
    FloatsFinite (queryFlags flags) ∧ (queryFlags flags).Carried ∧
      ((queryFlags flags).request ⟨.empty, []⟩ 0).1.state = .empty ∧
      ((queryFlags flags).request ⟨.empty, []⟩ 0).2 = some (.ok flags) := by
  intro flags
  have hfinite : FloatsFinite (queryFlags flags) := List.forall_mem_singleton.mpr rfl
  have hcarried : (queryFlags flags).Carried := List.forall_mem_singleton.mpr rfl
  exact ⟨hfinite, hcarried, request_eq_direct ⟨.empty, []⟩ 0 (queryFlags flags) hfinite hcarried⟩

end Call

end RpcSchema.Drawing
