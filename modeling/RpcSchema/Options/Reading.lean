import RpcSchema.Decimal.Text
import RpcSchema.Options.KeyValues

/-!
# Values read from option text

How a value of a type is read from keys and values. A list is given by its indexes, in any order
but without gaps.

## Main definitions

* `OptionValue` — types whose values option text can express
* `required`, `optional` — the fields of a struct
* `indexed` — the segments of a list, ordered by their indexes
-/

namespace RpcSchema.Options

/-- The types whose values option text can express. -/
class OptionValue (α : Type) where
  /-- The value that keys and values give. -/
  ofPairs : KeyValues → Except RpcError α

namespace OptionValue

/-! ### Scalars -/

/-- A scalar read by a function that must know it. -/
def ofScalar (expected : String) (read : String → Option α) (kvs : KeyValues) :
    Except RpcError α := do
  match read (← kvs.scalar?) with
  | some value => return value
  | none => throw (.wrongValue expected)

instance : OptionValue String where
  ofPairs kvs := kvs.scalar?

instance : OptionValue Int64 where
  ofPairs := ofScalar "an integer" Decimal.integer?

instance : OptionValue Float where
  ofPairs := ofScalar "a number" Decimal.float?

/-- The words for the truth values. -/
def switch? : String → Option Bool
  | "on" => some true
  | "off" => some false
  | _ => none

instance : OptionValue Bool where
  ofPairs := ofScalar "on or off" switch?

/-! ### Fields -/

/-- The value of a key that must be given. -/
def required (α : Type) [OptionValue α] (kvs : KeyValues) (key : String) : Except RpcError α :=
  match kvs.select? key with
  | some kvs => RpcError.atKey key (ofPairs kvs)
  | none => .error (.missingParameter key)

/-- The value of a key that may be left out. -/
def optional (α : Type) [OptionValue α] (kvs : KeyValues) (key : String) :
    Except RpcError (Option α) :=
  match kvs.select? key with
  | some kvs => (RpcError.atKey key (ofPairs kvs)).map some
  | none => .ok none

/-! ### Lists -/

/-- A segment and the index that it writes. -/
def index (segment : String) : Except RpcError (Nat × String) :=
  match Decimal.natural? UInt64.size segment with
  | some n => .ok (n, segment)
  | none => .error (.wrongValue "list indexes")

/-- The segments of a list in the order of their indexes, which count up from zero. -/
def indexed (kvs : KeyValues) : Except RpcError (List String) := do
  let sorted := (← kvs.segments.mapM index).mergeSort fun a b => a.1 ≤ b.1
  if sorted.map (·.1) = List.range sorted.length then return sorted.map (·.2)
  else throw (.wrongValue "list indexes counting up from 0")

instance [OptionValue α] : OptionValue (List α) where
  ofPairs kvs := do (← indexed kvs).mapM (required α kvs)

end OptionValue

end RpcSchema.Options
