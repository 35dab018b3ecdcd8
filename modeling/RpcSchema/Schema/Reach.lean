import RpcSchema.Schema.Dependency

/-!
# Types that need conversion code

A type needs conversion code only if its values cross a boundary. Values of command parameters,
command results and event fields cross the wire; values of options are read from text. An event
crosses the wire itself, as the payload of its messages.

## Main definitions

* `Reach` — the names on each side, in the order they were found
* `Schema.reach` — the names of a schema
-/

namespace RpcSchema

/-- The names of the types whose values cross the wire or come from option text. -/
structure Reach where
  wire : List String
  options : List String

/-- The types of a definition whose values cross the wire, in the order they are looked at. -/
def Definition.wireTypes (d : Definition) : List TypeRef :=
  match d.body with
  | .command params returns => fieldTypes params.toFields ++ [returns]
  | .event fields => fieldTypes fields
  | _ => []

/-- The types of a definition whose values come from option text. -/
def Definition.optionTypes (d : Definition) : List TypeRef :=
  match d.body with
  | .option (some type) _ => [type]
  | _ => []

namespace Schema

/-- The names on the wire after one more definition. -/
def addWire (schema : Schema) (wire : List String) (d : Definition) : List String :=
  schema.collect d.wireTypes (if d.kind = .event then insertName wire d.name else wire)

/-- The names that cross a boundary. -/
def reach (schema : Schema) : Reach where
  wire := schema.definitions.foldl schema.addWire []
  options := schema.collect (schema.definitions.flatMap Definition.optionTypes) []

end Schema

end RpcSchema
