import RpcSchema.Drawing.Wire
import RpcSchema.Proofs.Rpc.Faithful

/-!
# Figures survive the wire

Every type of the drawing service has a faithful form, at any depth of lists. Structs and
geometries are written part by part, so for each of them it remains to name the parts. A geometry
has one part besides its kind; its reader relies on the absence of the others.

## Main definitions

* the instances of `HasFloats` — the floats inside each type
* `WireType` — the types of the service, with lists at any depth

## Main results

* the instances of `Faithful` for each type
* `wire_roundTrip` — all of them at once
-/

namespace RpcSchema.Drawing

open Json (Members)
open RpcSchema.Wire

/-! ### Enumerations -/

instance : HasFloats Color := ⟨fun _ => []⟩

instance : HasFloats GeometryKind := ⟨fun _ => []⟩

instance : Faithful Color := by
  refine faithful_of_labelled (fun _ => rfl) (fun v => ?_) (by decide)
  cases v <;> decide

instance : Faithful GeometryKind := by
  refine faithful_of_labelled (fun _ => rfl) (fun v => ?_) (by decide)
  cases v <;> decide

/-! ### Structs -/

instance : HasFloats Point := ⟨fun p => floats p.x ++ floats p.y ++ floats p.label⟩

/-- The parts of a point. -/
def Point.parts (p : Point) : List ObjectPart :=
  [.of "x" (some p.x), .of "y" (some p.y), .of "label" p.label]

theorem Point.toWire_eq (p : Point) : toWire p = writeObject [] p.parts := by
  simp only [Point.parts, writeObject_cons, writeObject_nil]
  rfl

instance : Faithful Point := by
  refine faithful_of_parts Point.parts (fun p => ?_) Point.toWire_eq (fun p => ?_)
    fun p ms hparts _ => ?_
  · show ["x", "y", "label"].Nodup
    decide
  · simp only [Point.parts, List.forall_mem_cons, exists_partOf, floatsFinite_some]
    simp [FloatsFinite, floats]
  · simp only [Point.parts, List.forall_mem_cons] at hparts
    obtain ⟨hx, hy, hlabel, -⟩ := hparts
    refine bind_eq_ok.mpr ⟨ms, rfl, ?_⟩
    refine bind_eq_ok.mpr ⟨p.x, required_of_part hx, ?_⟩
    refine bind_eq_ok.mpr ⟨p.y, required_of_part hy, ?_⟩
    exact bind_eq_ok.mpr ⟨p.label, optional_of_part hlabel, rfl⟩

instance : HasFloats Origin := ⟨fun o => floats o.x ++ floats o.y⟩

/-- The parts of an origin. -/
def Origin.parts (o : Origin) : List ObjectPart := [.of "x" (some o.x), .of "y" (some o.y)]

theorem Origin.toWire_eq (o : Origin) : toWire o = writeObject [] o.parts := by
  simp only [Origin.parts, writeObject_cons, writeObject_nil]
  rfl

instance : Faithful Origin := by
  refine faithful_of_parts Origin.parts (fun o => ?_) Origin.toWire_eq (fun o => ?_)
    fun o ms hparts _ => ?_
  · show ["x", "y"].Nodup
    decide
  · simp only [Origin.parts, List.forall_mem_cons, exists_partOf, floatsFinite_some]
    simp [FloatsFinite, floats]
  · simp only [Origin.parts, List.forall_mem_cons] at hparts
    obtain ⟨hx, hy, -⟩ := hparts
    refine bind_eq_ok.mpr ⟨ms, rfl, ?_⟩
    refine bind_eq_ok.mpr ⟨o.x, required_of_part hx, ?_⟩
    exact bind_eq_ok.mpr ⟨o.y, required_of_part hy, rfl⟩

instance : HasFloats Shape :=
  ⟨fun s => floats s.name ++ floats s.points ++ floats s.color ++ floats s.origin⟩

/-- The parts of a shape. -/
def Shape.parts (s : Shape) : List ObjectPart :=
  [.of "name" (some s.name), .of "points" (some s.points), .of "color" (some s.color),
    .of "origin" s.origin]

theorem Shape.toWire_eq (s : Shape) : toWire s = writeObject [] s.parts := by
  simp only [Shape.parts, writeObject_cons, writeObject_nil]
  rfl

instance : Faithful Shape := by
  refine faithful_of_parts Shape.parts (fun s => ?_) Shape.toWire_eq (fun s => ?_)
    fun s ms hparts _ => ?_
  · show ["name", "points", "color", "origin"].Nodup
    decide
  · simp only [Shape.parts, List.forall_mem_cons, exists_partOf, floatsFinite_some]
    simp [FloatsFinite, floats]
  · simp only [Shape.parts, List.forall_mem_cons] at hparts
    obtain ⟨hname, hpoints, hcolor, horigin, -⟩ := hparts
    refine bind_eq_ok.mpr ⟨ms, rfl, ?_⟩
    refine bind_eq_ok.mpr ⟨s.name, required_of_part hname, ?_⟩
    refine bind_eq_ok.mpr ⟨s.points, required_of_part hpoints, ?_⟩
    refine bind_eq_ok.mpr ⟨s.color, required_of_part hcolor, ?_⟩
    exact bind_eq_ok.mpr ⟨s.origin, optional_of_part horigin, rfl⟩

instance : HasFloats Flags :=
  ⟨fun f => floats f.a ++ floats f.b ++ floats f.c ++ floats f.d⟩

/-- The parts of flags. -/
def Flags.parts (f : Flags) : List ObjectPart :=
  [.of "a" f.a, .of "b" f.b, .of "c" f.c, .of "d" f.d]

theorem Flags.toWire_eq (f : Flags) : toWire f = writeObject [] f.parts := by
  simp only [Flags.parts, writeObject_cons, writeObject_nil]
  rfl

instance : Faithful Flags := by
  refine faithful_of_parts Flags.parts (fun f => ?_) Flags.toWire_eq (fun f => ?_)
    fun f ms hparts _ => ?_
  · show ["a", "b", "c", "d"].Nodup
    decide
  · simp only [Flags.parts, List.forall_mem_cons, exists_partOf]
    simp [FloatsFinite, floats]
  · simp only [Flags.parts, List.forall_mem_cons] at hparts
    obtain ⟨ha, hb, hc, hd, -⟩ := hparts
    refine bind_eq_ok.mpr ⟨ms, rfl, ?_⟩
    refine bind_eq_ok.mpr ⟨f.a, optional_of_part ha, ?_⟩
    refine bind_eq_ok.mpr ⟨f.b, optional_of_part hb, ?_⟩
    refine bind_eq_ok.mpr ⟨f.c, optional_of_part hc, ?_⟩
    exact bind_eq_ok.mpr ⟨f.d, optional_of_part hd, rfl⟩

instance : HasFloats ShapeChanged := ⟨fun e => floats e.name ++ floats e.color⟩

/-- The parts of the event of a stored shape. -/
def ShapeChanged.parts (e : ShapeChanged) : List ObjectPart :=
  [.of "name" (some e.name), .of "color" (some e.color)]

theorem ShapeChanged.toWire_eq (e : ShapeChanged) : toWire e = writeObject [] e.parts := by
  simp only [ShapeChanged.parts, writeObject_cons, writeObject_nil]
  rfl

instance : Faithful ShapeChanged := by
  refine faithful_of_parts ShapeChanged.parts (fun e => ?_) ShapeChanged.toWire_eq (fun e => ?_)
    fun e ms hparts _ => ?_
  · show ["name", "color"].Nodup
    decide
  · simp only [ShapeChanged.parts, List.forall_mem_cons, exists_partOf, floatsFinite_some]
    simp [FloatsFinite, floats]
  · simp only [ShapeChanged.parts, List.forall_mem_cons] at hparts
    obtain ⟨hname, hcolor, -⟩ := hparts
    refine bind_eq_ok.mpr ⟨ms, rfl, ?_⟩
    refine bind_eq_ok.mpr ⟨e.name, required_of_part hname, ?_⟩
    exact bind_eq_ok.mpr ⟨e.color, required_of_part hcolor, rfl⟩

/-! ### Geometries and handles -/

instance : HasFloats Geometry where
  floats
    | .point p => floats p
    | .shape s => floats s
    | .radius r => floats r

/-- The parts of a geometry: its kind, and one named for the kind. -/
def Geometry.parts (g : Geometry) : List ObjectPart :=
  .of "kind" (some g.kind) ::
    match g with
    | .point p => [.of "point" (some p)]
    | .shape s => [.of "shape" (some s)]
    | .radius r => [.of "radius" (some r)]

/-- The kind of a geometry is read back from its index. -/
theorem required_kind {ms : Members} {kind : GeometryKind}
    (h : (ObjectPart.of "kind" (some kind)).form = .ok (ms.get? "kind")) : ∃ n : Int64,
      required Int64 ms "kind" = .ok n ∧ Labelled.ofIndex n.toInt = .ok kind := by
  obtain ⟨j, hget, hj⟩ := get?_of_part h
  cases hj
  have hmem : kind ∈ (Labelled.values : List GeometryKind) := by cases kind <;> decide
  obtain ⟨n, hn, hkind⟩ := ofWire_index hmem (by decide)
  exact ⟨n, required_eq_ok hget hn, hkind⟩

/-- A geometry has the member named for its kind and no other. -/
theorem keys_parts (g : Geometry) :
    g.parts.map ObjectPart.key = ["kind", Labelled.label g.kind] := by
  cases g <;> rfl

theorem Geometry.toWire_eq (g : Geometry) : toWire g = writeObject [] g.parts := by
  cases g <;> simp only [Geometry.parts, writeObject_cons, writeObject_nil] <;> rfl

instance : Faithful Geometry := by
  refine faithful_of_parts Geometry.parts (fun g => ?_) Geometry.toWire_eq (fun g => ?_)
    fun g ms hparts hothers => ?_
  · rw [keys_parts]
    generalize g.kind = kind
    cases kind <;> decide
  · cases g <;>
      simp only [Geometry.parts, List.forall_mem_cons, exists_partOf, floatsFinite_some] <;>
      simp [FloatsFinite, floats]
  · obtain ⟨n, hn, hindex⟩ := required_kind (hparts (.of "kind" (some g.kind)) List.mem_cons_self)
    have hsingle : ensureSingleMember ms "Geometry" (Labelled.labels GeometryKind)
        (Labelled.label g.kind) = .ok () := by
      refine ensureSingleMember_eq_ok _ (by decide) fun name hname hne => hothers name ?_
      rw [keys_parts, List.mem_cons, List.mem_singleton]
      rintro (rfl | hlabel)
      · exact absurd hname (by decide)
      · exact hne hlabel
    refine bind_eq_ok.mpr ⟨ms, rfl, bind_eq_ok.mpr ⟨n, hn, ?_⟩⟩
    refine bind_eq_ok.mpr ⟨g.kind, by rw [hindex]; rfl, ?_⟩
    cases g with
    | point p =>
      have hp := required_of_part (hparts (.of "point" (some p)) (by simp [Geometry.parts]))
      refine bind_eq_ok.mpr ⟨.point p, ?_, bind_eq_ok.mpr ⟨(), hsingle, rfl⟩⟩
      exact map_eq_ok.mpr ⟨p, hp, rfl⟩
    | shape s =>
      have hs := required_of_part (hparts (.of "shape" (some s)) (by simp [Geometry.parts]))
      refine bind_eq_ok.mpr ⟨.shape s, ?_, bind_eq_ok.mpr ⟨(), hsingle, rfl⟩⟩
      exact map_eq_ok.mpr ⟨s, hs, rfl⟩
    | radius r =>
      have hr := required_of_part (hparts (.of "radius" (some r)) (by simp [Geometry.parts]))
      refine bind_eq_ok.mpr ⟨.radius r, ?_, bind_eq_ok.mpr ⟨(), hsingle, rfl⟩⟩
      exact map_eq_ok.mpr ⟨r, hr, rfl⟩

instance : HasFloats FileHandle := ⟨fun f => floats f.number⟩

instance : Faithful FileHandle where
  exists_toWire f := ⟨fun _ => nofun, fun _ => ⟨_, rfl⟩⟩
  ofWire_toWire f j h := by
    cases h
    refine bind_eq_ok.mpr ⟨_, unwrapHandle_wrapHandle _ _, ?_⟩
    rw [Faithful.ofWire_toWire f.number _ rfl]
    rfl

/-! ### All types -/

/-- The types whose values the service takes and returns, with lists at any depth. -/
inductive WireType
  | int
  | bool
  | number
  | str
  | none
  | color
  | point
  | origin
  | shape
  | flags
  | geometryKind
  | geometry
  | fileHandle
  | shapeChanged
  | list (item : WireType)

namespace WireType

/-- The values of a type. -/
def Value : WireType → Type
  | int => Int64
  | bool => Bool
  | number => Float
  | str => String
  | none => Unit
  | color => Color
  | point => Point
  | origin => Origin
  | shape => Shape
  | flags => Flags
  | geometryKind => GeometryKind
  | geometry => Geometry
  | fileHandle => FileHandle
  | shapeChanged => ShapeChanged
  | list item => List item.Value

instance wire : (type : WireType) → Wire type.Value
  | int => inferInstanceAs (Wire Int64)
  | bool => inferInstanceAs (Wire Bool)
  | number => inferInstanceAs (Wire Float)
  | str => inferInstanceAs (Wire String)
  | none => inferInstanceAs (Wire Unit)
  | color => inferInstanceAs (Wire Color)
  | point => inferInstanceAs (Wire Point)
  | origin => inferInstanceAs (Wire Origin)
  | shape => inferInstanceAs (Wire Shape)
  | flags => inferInstanceAs (Wire Flags)
  | geometryKind => inferInstanceAs (Wire GeometryKind)
  | geometry => inferInstanceAs (Wire Geometry)
  | fileHandle => inferInstanceAs (Wire FileHandle)
  | shapeChanged => inferInstanceAs (Wire ShapeChanged)
  | list item =>
    have := wire item
    inferInstanceAs (Wire (List item.Value))

instance hasFloats : (type : WireType) → HasFloats type.Value
  | int => inferInstanceAs (HasFloats Int64)
  | bool => inferInstanceAs (HasFloats Bool)
  | number => inferInstanceAs (HasFloats Float)
  | str => inferInstanceAs (HasFloats String)
  | none => inferInstanceAs (HasFloats Unit)
  | color => inferInstanceAs (HasFloats Color)
  | point => inferInstanceAs (HasFloats Point)
  | origin => inferInstanceAs (HasFloats Origin)
  | shape => inferInstanceAs (HasFloats Shape)
  | flags => inferInstanceAs (HasFloats Flags)
  | geometryKind => inferInstanceAs (HasFloats GeometryKind)
  | geometry => inferInstanceAs (HasFloats Geometry)
  | fileHandle => inferInstanceAs (HasFloats FileHandle)
  | shapeChanged => inferInstanceAs (HasFloats ShapeChanged)
  | list item =>
    have := hasFloats item
    inferInstanceAs (HasFloats (List item.Value))

instance faithful : (type : WireType) → Faithful type.Value
  | int => inferInstanceAs (Faithful Int64)
  | bool => inferInstanceAs (Faithful Bool)
  | number => inferInstanceAs (Faithful Float)
  | str => inferInstanceAs (Faithful String)
  | none => inferInstanceAs (Faithful Unit)
  | color => inferInstanceAs (Faithful Color)
  | point => inferInstanceAs (Faithful Point)
  | origin => inferInstanceAs (Faithful Origin)
  | shape => inferInstanceAs (Faithful Shape)
  | flags => inferInstanceAs (Faithful Flags)
  | geometryKind => inferInstanceAs (Faithful GeometryKind)
  | geometry => inferInstanceAs (Faithful Geometry)
  | fileHandle => inferInstanceAs (Faithful FileHandle)
  | shapeChanged => inferInstanceAs (Faithful ShapeChanged)
  | list item =>
    have := faithful item
    inferInstanceAs (Faithful (List item.Value))

end WireType

/-- A value of any type can be written exactly if all floats inside it are finite, and what was
written reads back as the value. -/
theorem wire_roundTrip (type : WireType) (v : type.Value) :
    ((∃ j, toWire v = .ok j) ↔ ∀ x ∈ floats v, x.isFinite) ∧
      ∀ j, toWire v = .ok j → ofWire j = Except.ok v :=
  ⟨Faithful.exists_toWire v, Faithful.ofWire_toWire v⟩

end RpcSchema.Drawing
