import RpcSchema.Drawing.Figure
import RpcSchema.Rpc.Envelope

/-!
# Figures on the wire and in options

The forms of the drawing's values. A struct is an object with a member for each of its parts; a
part that is absent has no member. A color and a kind are indexes. A geometry is an object of its
kind and one member named for the kind, and every other kind's member is refused. A file handle is
marked with its type.

## Main definitions

* the `Wire` instances — the forms of all types
* the `OptionValue` instances of `Color` and `Point`
* `ShapeChanged.ofMessage?` — the event that a message carries
-/

namespace RpcSchema.Drawing

open Json (Members)
open RpcSchema.Wire

instance : Wire Color := Labelled.wire

instance : Wire GeometryKind := Labelled.wire

instance : Wire Point where
  toWire p := do
    let members ← insert [] "x" p.x
    let members ← insert members "y" p.y
    return .object (← insertSome members "label" p.label)
  ofWire j := do
    let members ← members j
    return {
      x := ← required Int64 members "x"
      y := ← required Int64 members "y"
      label := ← optional String members "label" }

instance : Wire Origin where
  toWire o := do
    let members ← insert [] "x" o.x
    return .object (← insert members "y" o.y)
  ofWire j := do
    let members ← members j
    return {
      x := ← required Int64 members "x"
      y := ← required Int64 members "y" }

instance : Wire Shape where
  toWire s := do
    let members ← insert [] "name" s.name
    let members ← insert members "points" s.points
    let members ← insert members "color" s.color
    return .object (← insertSome members "origin" s.origin)
  ofWire j := do
    let members ← members j
    return {
      name := ← required String members "name"
      points := ← required (List Point) members "points"
      color := ← required Color members "color"
      origin := ← optional Origin members "origin" }

instance : Wire Flags where
  toWire f := do
    let members ← insertSome [] "a" f.a
    let members ← insertSome members "b" f.b
    let members ← insertSome members "c" f.c
    return .object (← insertSome members "d" f.d)
  ofWire j := do
    let members ← members j
    return {
      a := ← optional Bool members "a"
      b := ← optional Int64 members "b"
      c := ← optional String members "c"
      d := ← optional Float members "d" }

instance : Wire Geometry where
  toWire g := do
    let members ← insert [] "kind" g.kind
    match g with
    | .point p => return .object (← insert members "point" p)
    | .shape s => return .object (← insert members "shape" s)
    | .radius r => return .object (← insert members "radius" r)
  ofWire j := do
    let members ← members j
    let index ← required Int64 members "kind"
    let kind : GeometryKind ← RpcError.atKey "kind" (Labelled.ofIndex index.toInt)
    let geometry ← match kind with
      | .point => Geometry.point <$> required Point members "point"
      | .shape => Geometry.shape <$> required Shape members "shape"
      | .radius => Geometry.radius <$> required Float members "radius"
    ensureSingleMember members "Geometry" (Labelled.labels GeometryKind) (Labelled.label kind)
    return geometry

instance : Wire FileHandle where
  toWire f := do
    return wrapHandle "FileHandle" (← RpcError.atKey "data" (toWire f.number))
  ofWire j := do
    let payload ← unwrapHandle "FileHandle" j
    return ⟨← RpcError.atKey "data" (ofWire payload)⟩

instance : Wire ShapeChanged where
  toWire e := do
    let members ← insert [] "name" e.name
    return .object (← insert members "color" e.color)
  ofWire j := do
    let members ← members j
    return {
      name := ← required String members "name"
      color := ← required Color members "color" }

/-- The event that a message carries, if it is one of the drawing service. -/
def ShapeChanged.ofMessage? (message : EventMessage) : Except RpcError (Option ShapeChanged) :=
  if message.event = ShapeChanged.event then (ofWire message.data).map some else .ok none

/-! ### Options -/

instance : Options.OptionValue Color := Labelled.optionValue

instance : Options.OptionValue Point where
  ofPairs kvs := do
    return {
      x := ← Options.OptionValue.required Int64 kvs "x"
      y := ← Options.OptionValue.required Int64 kvs "y"
      label := ← Options.OptionValue.optional String kvs "label" }

end RpcSchema.Drawing
