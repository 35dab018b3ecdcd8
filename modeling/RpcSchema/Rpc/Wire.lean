import RpcSchema.Rpc.Error

/-!
# Values on the wire

How values of a type are written as JSON and read back. Writing fails only for floats that JSON
has no number for. Reading fails at the first part that does not fit, and says where: an error in
the value of a key names that key.

## Main definitions

* `Wire` — types with a form on the wire
* `required`, `optional`, `insert` — the members of an object
* `ensureSingleMember` — the rule that a union has one member
* `wrapHandle`, `unwrapHandle` — values that are marked with their type
-/

namespace RpcSchema

open Json (Members)

/-- The types whose values cross the wire. -/
class Wire (α : Type) where
  /-- The JSON form of a value. -/
  toWire : α → Except RpcError Json
  /-- The value of a JSON form. -/
  ofWire : Json → Except RpcError α

namespace Wire

/-! ### Scalars -/

/-- A value that must have the expected shape. -/
def expect (expected : String) (value : Option α) : Except RpcError α :=
  match value with
  | some a => .ok a
  | none => .error (.wrongType expected)

instance : Wire Int64 where
  toWire n := .ok (.int n.toInt)
  ofWire j := (expect "int" j.word?).map Int64.ofInt

instance : Wire Bool where
  toWire b := .ok (.bool b)
  ofWire j := expect "bool" j.bool?

instance : Wire Float where
  toWire x := if x.isFinite then .ok (.float x) else .error (.wrongValue "a finite number")
  ofWire j := expect "number" j.number?

instance : Wire String where
  toWire s := .ok (.string s)
  ofWire j := expect "string" j.string?

/-- No value at all: written as an empty object, and read from anything. -/
instance : Wire Unit where
  toWire _ := .ok (.object [])
  ofWire _ := .ok ()

instance [Wire α] : Wire (List α) where
  toWire items := (items.mapM toWire).map .array
  ofWire j := do (← expect "list" j.array?).mapM ofWire

/-! ### Objects -/

/-- The members of a value that must be an object. -/
def members (value : Json) : Except RpcError Members := expect "object" value.object?

/-- The value of a member that must be there. -/
def required (α : Type) [Wire α] (members : Members) (key : String) : Except RpcError α :=
  match members.get? key with
  | some value => RpcError.atKey key (ofWire value)
  | none => .error (.missingParameter key)

/-- The value of a member that may be absent. -/
def optional (α : Type) [Wire α] (members : Members) (key : String) :
    Except RpcError (Option α) :=
  match members.get? key with
  | some value => (RpcError.atKey key (ofWire value)).map some
  | none => .ok none

/-- The members with one more. -/
def insert [Wire α] (members : Members) (key : String) (value : α) : Except RpcError Members :=
  (RpcError.atKey key (toWire value)).map fun value => Members.insert key value members

/-- The members with one more if there is a value for it. -/
def insertSome [Wire α] (members : Members) (key : String) : Option α → Except RpcError Members
  | some value => insert members key value
  | none => .ok members

/-! ### Unions and handles -/

/-- Fails if an object has a member of a union other than the active one. -/
def ensureSingleMember (members : Members) (union : String) (names : List String)
    (active : String) : Except RpcError Unit :=
  let present := names.filter members.contains
  if 1 < present.length || present.any (· != active) then .error (.unionConstraint union present)
  else .ok ()

/-- The key under which a handle carries its type. -/
def handleMarker : String := "__handle__"

/-- The payload of a handle, marked with the type of the handle. -/
def wrapHandle (name : String) (payload : Json) : Json :=
  .object [(handleMarker, .string name), ("data", payload)]

/-- The payload of a handle that must be marked with the given type. -/
def unwrapHandle (name : String) (value : Json) : Except RpcError Json := do
  let members ← members value
  match members.get? handleMarker with
  | none => throw (.missingParameter handleMarker)
  | some mark =>
    if mark.string? != some name then
      throw (.invalidValue handleMarker ("a " ++ name ++ " handle"))
    match members.get? "data" with
    | some payload => return payload
    | none => throw (.missingParameter "data")

end Wire

end RpcSchema
