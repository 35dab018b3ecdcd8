/-!
# JSON values

Values as the wire carries them. Integers and floats are different numbers: a literal without
point and exponent is an integer, and only such a one is accepted where an integer is wanted. An
object keeps its members in insertion order, and its keys are distinct.

## Main definitions

* `Json` — a value
* `Json.Members` — the members of an object
* `Members.get?`, `Members.insert`, `Members.ofList` — access by key, keeping the order
* `Json.int?`, `Json.number?`, … — the value read as one kind
-/

namespace RpcSchema

/-- A JSON value. -/
inductive Json
  | null
  | bool (value : Bool)
  | int (value : Int)
  | float (value : Float)
  | string (text : String)
  | array (items : List Json)
  | object (members : List (String × Json))
  deriving Inhabited

namespace Json

/-- The members of an object, in insertion order. -/
abbrev Members := List (String × Json)

/-! ### Members -/

/-- The value of a key. -/
def Members.get? (members : Members) (key : String) : Option Json := members.lookup key

/-- Whether a key is present. -/
def Members.contains (members : Members) (key : String) : Bool := (members.get? key).isSome

/-- Sets a key: a new key goes last, a known key keeps its place. -/
def Members.insert (key : String) (value : Json) : Members → Members
  | [] => [(key, value)]
  | (k, v) :: rest =>
    if k = key then (k, value) :: rest else (k, v) :: Members.insert key value rest

/-- The members that setting the pairs one after the other leaves. -/
def Members.ofList (pairs : List (String × Json)) : Members :=
  pairs.foldl (fun members pair => Members.insert pair.1 pair.2 members) []

/-! ### One kind of value -/

/-- The bounds of a signed word. -/
def isWord (n : Int) : Bool := Int64.minValue.toInt ≤ n && n ≤ Int64.maxValue.toInt

/-- The value as a signed word; a float is none, even a whole one. -/
def word? : Json → Option Int
  | .int n => if isWord n then some n else none
  | _ => none

/-- The value as a float; every number is one. -/
def number? : Json → Option Float
  | .int n => some (Float.ofInt n)
  | .float x => some x
  | _ => none

/-- The value as a truth value. -/
def bool? : Json → Option Bool
  | .bool b => some b
  | _ => none

/-- The value as text. -/
def string? : Json → Option String
  | .string s => some s
  | _ => none

/-- The value as a list. -/
def array? : Json → Option (List Json)
  | .array items => some items
  | _ => none

/-- The value as the members of an object. -/
def object? : Json → Option Members
  | .object members => some members
  | _ => none

/-- Whether the value is `null`. -/
def isNull : Json → Bool
  | .null => true
  | _ => false

end Json

end RpcSchema
