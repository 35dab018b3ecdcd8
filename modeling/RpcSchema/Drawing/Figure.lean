import RpcSchema.Labelled

/-!
# Figures

What a drawing consists of: points, shapes of several points in a color, and geometries, which
are one of a point, a shape or a circle. Beside them stand the other values that the drawing
service takes and returns.

The default of a type is what a new value holds before anything is set: no text, zero, and the
first of several choices.

## Main definitions

* `Color`, `Point`, `Shape`, `Geometry` — the figures
* `Flags`, `FileHandle`, `ShapeChanged` — settings, an open file, and the event of a stored shape
-/

namespace RpcSchema.Drawing

/-! ### Colors and shapes -/

/-- A color. -/
inductive Color
  | red
  | green
  | blue
  deriving Repr, DecidableEq, Inhabited

instance : Labelled Color where
  typeName := "Color"
  values := [.red, .green, .blue]
  label
    | .red => "red"
    | .green => "green"
    | .blue => "blue"

/-- A point, perhaps with a label. -/
structure Point where
  x : Int64
  y : Int64
  label : Option String
  deriving DecidableEq, Inhabited

/-- Where a shape has its origin. -/
structure Origin where
  x : Int64
  y : Int64
  deriving DecidableEq, Inhabited

/-- A named shape. -/
structure Shape where
  name : String
  points : List Point
  color : Color
  origin : Option Origin
  deriving DecidableEq, Inhabited

/-! ### Geometries -/

/-- The kinds of geometries. -/
inductive GeometryKind
  | point
  | shape
  | radius
  deriving Repr, DecidableEq, Inhabited

instance : Labelled GeometryKind where
  typeName := "GeometryKind"
  values := [.point, .shape, .radius]
  label
    | .point => "point"
    | .shape => "shape"
    | .radius => "radius"

/-- A point, a shape, or a circle of some radius. -/
inductive Geometry
  | point (point : Point)
  | shape (shape : Shape)
  | radius (radius : Float)

/-- A new geometry is a point. -/
instance : Inhabited Geometry := ⟨.point default⟩

/-- The kind of a geometry. -/
def Geometry.kind : Geometry → GeometryKind
  | .point _ => .point
  | .shape _ => .shape
  | .radius _ => .radius

/-! ### Other values -/

/-- Four settings that are independent of each other. -/
structure Flags where
  a : Option Bool
  b : Option Int64
  c : Option String
  d : Option Float
  deriving Inhabited

/-- An open file. -/
structure FileHandle where
  number : Int64
  deriving DecidableEq, Inhabited

/-- A shape was stored. -/
structure ShapeChanged where
  name : String
  color : Color
  deriving DecidableEq, Inhabited

/-- The name of the event that a shape was stored. -/
def ShapeChanged.event : String := "SHAPE_CHANGED"

end RpcSchema.Drawing
