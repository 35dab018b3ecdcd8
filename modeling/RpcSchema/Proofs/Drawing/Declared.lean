import Mathlib.Data.List.Nodup
import Mathlib.Logic.Relation
import RpcSchema.Proofs.Drawing.Geometries
import RpcSchema.Proofs.Drawing.RoundTrip

/-!
# What reading a value depends on

Each type whose values are objects declares the keys of its members, and reading an object looks at
these only, one after the other in the order of the type. So the order in which an object has its
members makes no difference, nor does a member that is not declared: the value that is read is the
same, and if none is read then the error is the same. Inside the object all members are read in the
same way, so this holds at any depth.

## Main definitions

* `WireType.declared` — the members that a type declares
* `WireType.read` — a value of a type, read from its form
* `WireType.Padded` — a member is added somewhere inside a value where it is not declared

## Main results

* `Point.ofWire_object`, … — the members of each type, in the order they are read
* `WireType.read_object_congr` — objects whose declared members are read alike are read alike
* `WireType.read_eq_of_edited` — reordered and added members make no difference
-/

namespace RpcSchema.Drawing

open Json (Members)
open RpcSchema.Wire

/-! ### Objects -/

section

variable {members others : Members}

theorem Point.ofWire_object (members : Members) :
    (ofWire (.object members) : Except RpcError Point) = (do
      return {
        x := ← required Int64 members "x"
        y := ← required Int64 members "y"
        label := ← optional String members "label" }) :=
  rfl

theorem Point.ofWire_congr (hx : Alike Int64 members others "x")
    (hy : Alike Int64 members others "y") (hlabel : Alike String members others "label") :
    (ofWire (.object members) : Except RpcError Point) = ofWire (.object others) := by
  rw [ofWire_object, ofWire_object, required_congr hx, required_congr hy, optional_congr hlabel]

theorem Origin.ofWire_object (members : Members) :
    (ofWire (.object members) : Except RpcError Origin) = (do
      return { x := ← required Int64 members "x", y := ← required Int64 members "y" }) :=
  rfl

theorem Origin.ofWire_congr (hx : Alike Int64 members others "x")
    (hy : Alike Int64 members others "y") :
    (ofWire (.object members) : Except RpcError Origin) = ofWire (.object others) := by
  rw [ofWire_object, ofWire_object, required_congr hx, required_congr hy]

theorem Shape.ofWire_object (members : Members) :
    (ofWire (.object members) : Except RpcError Shape) = (do
      return {
        name := ← required String members "name"
        points := ← required (List Point) members "points"
        color := ← required Color members "color"
        origin := ← optional Origin members "origin" }) :=
  rfl

theorem Shape.ofWire_congr (hname : Alike String members others "name")
    (hpoints : Alike (List Point) members others "points")
    (hcolor : Alike Color members others "color")
    (horigin : Alike Origin members others "origin") :
    (ofWire (.object members) : Except RpcError Shape) = ofWire (.object others) := by
  rw [ofWire_object, ofWire_object, required_congr hname, required_congr hpoints,
    required_congr hcolor, optional_congr horigin]

theorem Flags.ofWire_object (members : Members) :
    (ofWire (.object members) : Except RpcError Flags) = (do
      return {
        a := ← optional Bool members "a"
        b := ← optional Int64 members "b"
        c := ← optional String members "c"
        d := ← optional Float members "d" }) :=
  rfl

theorem Flags.ofWire_congr (ha : Alike Bool members others "a")
    (hb : Alike Int64 members others "b") (hc : Alike String members others "c")
    (hd : Alike Float members others "d") :
    (ofWire (.object members) : Except RpcError Flags) = ofWire (.object others) := by
  rw [ofWire_object, ofWire_object, optional_congr ha, optional_congr hb, optional_congr hc,
    optional_congr hd]

theorem ShapeChanged.ofWire_object (members : Members) :
    (ofWire (.object members) : Except RpcError ShapeChanged) = (do
      return {
        name := ← required String members "name"
        color := ← required Color members "color" }) :=
  rfl

theorem ShapeChanged.ofWire_congr (hname : Alike String members others "name")
    (hcolor : Alike Color members others "color") :
    (ofWire (.object members) : Except RpcError ShapeChanged) = ofWire (.object others) := by
  rw [ofWire_object, ofWire_object, required_congr hname, required_congr hcolor]

theorem Geometry.ofKind_congr (hpoint : Alike Point members others "point")
    (hshape : Alike Shape members others "shape") (hradius : Alike Float members others "radius")
    (kind : GeometryKind) : Geometry.ofKind members kind = Geometry.ofKind others kind := by
  cases kind with
  | point => rw [ofKind, ofKind, required_congr hpoint]
  | shape => rw [ofKind, ofKind, required_congr hshape]
  | radius => rw [ofKind, ofKind, required_congr hradius]

theorem Geometry.ofWire_congr (hkind : Alike GeometryKind members others "kind")
    (hpoint : Alike Point members others "point") (hshape : Alike Shape members others "shape")
    (hradius : Alike Float members others "radius") :
    (ofWire (.object members) : Except RpcError Geometry) = ofWire (.object others) := by
  have hcontains : ∀ name ∈ Labelled.labels GeometryKind,
      members.contains name = others.contains name := by
    simp only [Labelled.labels, Labelled.values, List.forall_mem_map, List.forall_mem_cons]
    exact ⟨contains_congr hpoint, contains_congr hshape, contains_congr hradius,
      List.forall_mem_nil _⟩
  rw [ofWire_object, ofWire_object, required_congr hkind]
  simp only [ofKind_congr hpoint hshape hradius, ensureSingleMember_congr hcontains]

/-- The mark of a handle comes first, and its number only after a mark of the right type. -/
theorem FileHandle.ofWire_object (members : Members) :
    (ofWire (.object members) : Except RpcError FileHandle) =
      match (members.get? handleMarker).map Json.string? with
      | none => .error (.missingParameter handleMarker)
      | some text =>
        if text = some "FileHandle" then FileHandle.mk <$> required Int64 members "data"
        else .error (.invalidValue handleMarker "a FileHandle handle") := by
  show (unwrapHandle "FileHandle" (.object members) >>= fun payload => do
    return FileHandle.mk (← RpcError.atKey "data" (ofWire payload))) = _
  rw [unwrapHandle, show Wire.members (.object members) = .ok members from rfl,
    bind_of_eq_ok rfl]
  cases members.get? handleMarker with
  | none => rfl
  | some mark =>
    by_cases hmark : mark.string? = some "FileHandle"
    · simp only [hmark, Option.map_some, if_true, bne_self_eq_false, Bool.false_eq_true, if_false]
      rw [required]
      cases members.get? "data" <;> rfl
    · simp only [hmark, Option.map_some, if_false]
      rw [if_pos (bne_iff_ne.mpr hmark)]
      rfl

theorem FileHandle.ofWire_congr (hmark : Alike String members others handleMarker)
    (hdata : Alike Int64 members others "data") :
    (ofWire (.object members) : Except RpcError FileHandle) = ofWire (.object others) := by
  have htext : (members.get? handleMarker).map Json.string? =
      (others.get? handleMarker).map Json.string? := by
    have hinjective : Function.Injective (expect (α := String) "string") := by
      rintro (_ | a) (_ | b) h <;> cases h <;> rfl
    refine Option.map_injective hinjective ?_
    rwa [Option.map_map, Option.map_map]
  rw [ofWire_object, ofWire_object, htext, required_congr hdata]

end

namespace WireType

/-! ### Declared members -/

/-- The members that objects of a type declare, with the types of their values. -/
def declared : WireType → List (String × WireType)
  | point => [("x", int), ("y", int), ("label", str)]
  | origin => [("x", int), ("y", int)]
  | shape => [("name", str), ("points", list point), ("color", color), ("origin", origin)]
  | flags => [("a", bool), ("b", int), ("c", str), ("d", number)]
  | geometry => [("kind", geometryKind), ("point", point), ("shape", shape), ("radius", number)]
  | fileHandle => [(handleMarker, str), ("data", int)]
  | shapeChanged => [("name", str), ("color", color)]
  | int | bool | number | str | none | color | geometryKind | list _ => []

theorem nodup_declared (type : WireType) : (type.declared.map (·.1)).Nodup := by
  cases type with
  | list item => exact List.nodup_nil
  | _ => decide

/-- A value of a type, read from its form. -/
def read (type : WireType) (form : Json) : Except RpcError type.Value := ofWire form

/-- Objects whose declared members are read alike are read alike. -/
theorem read_object_congr {type : WireType} {members others : Members}
    (h : ∀ m ∈ type.declared, (members.get? m.1).map m.2.read = (others.get? m.1).map m.2.read) :
    type.read (.object members) = type.read (.object others) := by
  cases type with
  | int | bool | number | str | none | color | geometryKind | list _ => rfl
  | point =>
    simp only [declared, List.forall_mem_cons] at h
    obtain ⟨hx, hy, hlabel, -⟩ := h
    exact Point.ofWire_congr hx hy hlabel
  | origin =>
    simp only [declared, List.forall_mem_cons] at h
    obtain ⟨hx, hy, -⟩ := h
    exact Origin.ofWire_congr hx hy
  | shape =>
    simp only [declared, List.forall_mem_cons] at h
    obtain ⟨hname, hpoints, hcolor, horigin, -⟩ := h
    exact Shape.ofWire_congr hname hpoints hcolor horigin
  | flags =>
    simp only [declared, List.forall_mem_cons] at h
    obtain ⟨ha, hb, hc, hd, -⟩ := h
    exact Flags.ofWire_congr ha hb hc hd
  | geometry =>
    simp only [declared, List.forall_mem_cons] at h
    obtain ⟨hkind, hpoint, hshape, hradius, -⟩ := h
    exact Geometry.ofWire_congr hkind hpoint hshape hradius
  | fileHandle =>
    simp only [declared, List.forall_mem_cons] at h
    obtain ⟨hmark, hdata, -⟩ := h
    exact FileHandle.ofWire_congr hmark hdata
  | shapeChanged =>
    simp only [declared, List.forall_mem_cons] at h
    obtain ⟨hname, hcolor, -⟩ := h
    exact ShapeChanged.ofWire_congr hname hcolor

/-- Arrays that differ in an item that is read alike are read alike. -/
theorem read_array_congr {type : WireType} {before after : List Json} {v w : Json}
    (h : ∀ item, type = list item → item.read v = item.read w) :
    type.read (.array (before ++ v :: after)) = type.read (.array (before ++ w :: after)) := by
  cases type with
  | list item => exact mapM_append_cons_congr (h item rfl) before after
  | _ => rfl

/-! ### Edits -/

/-- A value with a member added to one of the objects inside it, which the type that the object is
read as does not declare. -/
inductive Padded : WireType → Json → Json → Prop
  | here {type : WireType} {before after : Members} {key : String} {value : Json}
    (hkey : key ∉ type.declared.map (·.1)) :
    Padded type (.object (before ++ after)) (.object (before ++ (key, value) :: after))
  | item {item : WireType} {before after : List Json} {v w : Json} (h : Padded item v w) :
    Padded (list item) (.array (before ++ v :: after)) (.array (before ++ w :: after))
  | member {type inner : WireType} {before after : Members} {key : String} {v w : Json}
    (hkey : (key, inner) ∈ type.declared) (h : Padded inner v w) :
    Padded type (.object (before ++ (key, v) :: after)) (.object (before ++ (key, w) :: after))

theorem read_eq_of_reordered {v w : Json} (h : v.Reordered w) (type : WireType) :
    type.read v = type.read w := by
  induction h generalizing type with
  | here hkeys h => exact read_object_congr fun m _ => by rw [get?_of_perm hkeys h]
  | item _ ih => exact read_array_congr fun item _ => ih item
  | member _ ih =>
    exact read_object_congr fun m _ => map_get?_append_cons _ _ _ fun _ => ih m.2

theorem read_eq_of_padded {type : WireType} {v w : Json} (h : type.Padded v w) :
    type.read v = type.read w := by
  induction h with
  | here hkey =>
    refine read_object_congr fun m hm => ?_
    rw [get?_append_cons_of_ne]
    rintro rfl
    exact hkey (List.mem_map_of_mem hm)
  | item _ ih =>
    refine read_array_congr fun item hitem => ?_
    cases hitem
    exact ih
  | @member type inner _ _ key _ _ hkey _ ih =>
    refine read_object_congr fun m hm => map_get?_append_cons _ _ _ fun hm' => ?_
    have hsame : m = (key, inner) := List.inj_on_of_nodup_map type.nodup_declared hm hkey hm'
    rw [hsame]
    exact ih

/-- Whatever a value is read as, it makes no difference if members of objects anywhere inside it are
put in another order, or if members are added that are not declared where they stand, any number of
times: the same value is read, or the same error is given. -/
theorem read_eq_of_edited {type : WireType} {v w : Json}
    (h : Relation.EqvGen (fun v w => v.Reordered w ∨ type.Padded v w) v w) :
    type.read v = type.read w := by
  induction h with
  | rel v w h => exact h.elim (read_eq_of_reordered · type) read_eq_of_padded
  | refl v => rfl
  | symm v w _ ih => exact ih.symm
  | trans u v w _ _ huv hvw => exact huv.trans hvw

/-- A shape in a list keeps its first error when the members of its point are swapped and one that
points do not have is put between them. -/
theorem read_eq_of_edited_point :
    let shape (point : Members) : Json := .object [("name", .string "dot"),
      ("points", .array [.object point]), ("color", .int 7)]
    (list .shape).read (.array [shape [("x", .int 1), ("y", .string "two")]]) =
        .error (.invalidType "y" "int") ∧
      (list .shape).read (.array [shape [("y", .string "two"), ("z", .null), ("x", .int 1)]]) =
        .error (.invalidType "y" "int") := by
  intro shape
  have hreordered : (shape [("x", .int 1), ("y", .string "two")]).Reordered
      (shape [("y", .string "two"), ("x", .int 1)]) :=
    @Json.Reordered.member [("name", .string "dot")] _ "points" _ _
      (@Json.Reordered.item [] [] _ _ (.here (by decide) (.swap _ _ _)))
  have hpadded : WireType.shape.Padded (shape [("y", .string "two"), ("x", .int 1)])
      (shape [("y", .string "two"), ("z", .null), ("x", .int 1)]) :=
    @Padded.member .shape (list .point) [("name", .string "dot")] _ "points" _ _ (.tail _ (.head _))
      (@Padded.item .point [] [] _ _ (@Padded.here .point [_] [_] "z" .null (by decide)))
  have hsame := read_eq_of_edited (.trans _ _ _
    (.rel _ _ (.inl (@Json.Reordered.item [] [] _ _ hreordered)))
    (.rel _ _ (.inr (@Padded.item .shape [] [] _ _ hpadded))))
  have hread : (list .shape).read (.array [shape [("x", .int 1), ("y", .string "two")]]) =
      .error (.invalidType "y" "int") := rfl
  exact ⟨hread, hsame.symm.trans hread⟩

end WireType

end RpcSchema.Drawing
