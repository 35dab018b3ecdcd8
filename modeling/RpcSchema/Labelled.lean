import RpcSchema.Options.Reading
import RpcSchema.Rpc.Wire

/-!
# Labelled enumerations

A type of finitely many values, each with a label. Its values are listed in order: on the wire a
value is the index of its place, and in option text it is its label.

## Main definitions

* `Labelled` — such a type
* `Labelled.ofIndex`, `Labelled.ofLabel` — the value of an index or label
* `Labelled.wire`, `Labelled.optionValue` — its two forms
-/

namespace RpcSchema

/-- The types with finitely many labelled values. -/
class Labelled (α : Type) where
  /-- the name of the type -/
  typeName : String
  /-- the values in order -/
  values : List α
  /-- the label of a value -/
  label : α → String

namespace Labelled

variable {α : Type} [Labelled α]

/-- The labels in order. -/
def labels (α : Type) [Labelled α] : List String := (values : List α).map label

/-- What is expected where a value of the type is wanted. -/
def expected (α : Type) [Labelled α] : String := "a valid " ++ typeName α

/-- The place of a value. -/
def index [BEq α] (a : α) : Nat := (values : List α).idxOf a

/-- The value at a place. -/
def ofIndex? (n : Int) : Option α := if n < 0 then none else (values : List α)[n.toNat]?

/-- The value of a label. -/
def ofLabel? (text : String) : Option α := (values : List α).find? fun a => label a == text

/-- The value of an index, which must be that of a value. -/
def ofIndex (n : Int) : Except RpcError α :=
  match ofIndex? n with
  | some a => .ok a
  | none => .error (.wrongValue (expected α))

/-- The value of a label, which must be that of a value. -/
def ofLabel (text : String) : Except RpcError α :=
  match ofLabel? text with
  | some a => .ok a
  | none => .error (.wrongValue (expected α))

/-- The form on the wire: the index. -/
@[reducible] def wire [BEq α] : Wire α where
  toWire a := .ok (.int (index a))
  ofWire j := do
    let n : Int64 ← Wire.ofWire j
    ofIndex n.toInt

/-- The form in option text: the label. -/
@[reducible] def optionValue : Options.OptionValue α where
  ofPairs kvs := do ofLabel (← kvs.scalar?)

end Labelled

end RpcSchema
