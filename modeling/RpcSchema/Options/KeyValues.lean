import RpcSchema.Rpc.Error
import RpcSchema.Text.Split

/-!
# Keys and values of options

The argument of an option is a list of keys with values, separated by commas:

```
name=a,origin.x=1,origin.y=2
```

A key is a path of segments separated by dots. A part without `=` is a flag that is set to `on`;
only at the very start it may be the value of a key that the option leaves implicit. A scalar is a
single value without a key.

What was given for a key is found by selecting it. A value given for exactly that key hides those
given for longer paths, and the last such value counts.

## Main definitions

* `KeyValues` — keys with values, in the order of the argument
* `KeyValues.parse` — those of an argument
* `KeyValues.select?` — what was given for a key
* `KeyValues.scalar?` — the value of a scalar
* `KeyValues.segments` — the first segments of the keys
-/

namespace RpcSchema.Options

open RpcSchema.Text

/-- Keys with values, in the order they were given. -/
structure KeyValues where
  pairs : List (String × String)
  deriving Repr, DecidableEq

namespace KeyValues

/-- A value without a key. -/
def ofScalar (value : String) : KeyValues := ⟨[("", value)]⟩

/-! ### Arguments -/

/-- The pair of one part of an argument. Only the first part may leave out the implicit key. -/
def pair (implicit : Option String) (isFirst : Bool) (part : List Char) :
    Except RpcError (String × String) :=
  let key := part.takeWhile (· != '=')
  match part.dropWhile (· != '=') with
  | [] =>
    match implicit, isFirst with
    | some implicit, true => .ok (implicit, String.ofList part)
    | _, _ => .ok (String.ofList part, "on")
  | _ :: value =>
    if key.isEmpty then .error (.wrongValue "a key before '='")
    else .ok (String.ofList key, String.ofList value)

/-- The pairs of the parts of an argument; empty parts are passed over. -/
def pairsOf (implicit : Option String) (isFirst : Bool) :
    List (List Char) → Except RpcError (List (String × String))
  | [] => .ok []
  | part :: rest => do
    if part.isEmpty then pairsOf implicit false rest
    else return (← pair implicit isFirst part) :: (← pairsOf implicit false rest)

/-- The keys and values of an argument. -/
def parse (implicit : Option String) (text : String) : Except RpcError KeyValues :=
  (pairsOf implicit true (splitWhere (· == ',') text.toList)).map KeyValues.mk

/-! ### Selection -/

/-- The text after a start that another text has. -/
def after? (start text : List Char) : Option (List Char) :=
  if start.isPrefixOf text then some (text.drop start.length) else none

/-- The path below a key, if another key is such a path. -/
def below? (key path : String) : Option String :=
  match after? (key.toList ++ ['.']) path.toList with
  | some (c :: rest) => some (String.ofList (c :: rest))
  | _ => none

/-- What was given for a key: the last value for the key itself, or everything given for paths
below it. -/
def select? (kvs : KeyValues) (key : String) : Option KeyValues :=
  match kvs.pairs.reverse.lookup key with
  | some value => some (ofScalar value)
  | none =>
    match kvs.pairs.filterMap fun (path, value) => (below? key path).map (·, value) with
    | [] => none
    | nested => some ⟨nested⟩

/-- The value of a scalar. -/
def scalar? (kvs : KeyValues) : Except RpcError String :=
  match kvs.pairs with
  | [("", value)] => .ok value
  | _ => .error (.wrongType "a scalar value")

/-- The first segment of a path. -/
def firstSegment (path : String) : String := String.ofList (path.toList.takeWhile (· != '.'))

/-- The distinct non-empty first segments of the keys, in order of first appearance. -/
def segments (kvs : KeyValues) : List String :=
  kvs.pairs.foldl (fun seen pair =>
    let segment := firstSegment pair.1
    if segment = "" || seen.contains segment then seen else seen ++ [segment]) []

end KeyValues

end RpcSchema.Options
