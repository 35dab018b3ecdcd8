import RpcSchema.Schema.Basic

/-!
# Aggregates in place

Fields in place are declared as structs of their own, before the definition that they stand in
and after those that they contain.

## Main definitions

* `Aggregate` — fields under a made name
* `aggregates` — those of a type, inner ones first
* `Definition.aggregates` — those of a definition
-/

namespace RpcSchema

/-- Fields in place, under their made name. -/
structure Aggregate where
  name : String
  fields : List Field

mutual

/-- The fields in place inside a type, inner ones first. -/
def aggregates : TypeRef → List Aggregate
  | .array item => aggregates item
  | .anonymous name fields => fieldAggregates fields ++ [⟨name, fields⟩]
  | _ => []

/-- The fields in place inside the types of some fields. -/
def fieldAggregates : List (FieldOf TypeRef) → List Aggregate
  | [] => []
  | field :: rest => aggregates field.type ++ fieldAggregates rest

end

/-- The fields in place inside a definition. -/
def Definition.aggregates (d : Definition) : List Aggregate :=
  match d.body with
  | .struct fields => fieldAggregates fields
  | .enum _ _ => []
  | .union members => fieldAggregates members
  | .handle payload => RpcSchema.aggregates payload
  | .event fields => fieldAggregates fields
  | .command params returns =>
    fieldAggregates params.toFields ++ RpcSchema.aggregates returns
  | .option type _ => (type.map RpcSchema.aggregates).getD []

end RpcSchema
