import RpcSchema.Code.Aggregate
import RpcSchema.Code.Item
import RpcSchema.Code.Rendering

/-!
# Declared types

The items that declare the types of a schema: a struct for each struct, event and set of fields in
place, an enum for each enum and union, and a struct around the payload of each handle. An event
also has names for the functions that take it and for its signal.

## Main definitions

* `structItem` — a struct with the given fields
* `Definition.typeItems` — the items of one definition
* `typeItems` — the items of the schema
-/

namespace RpcSchema.Code

open RpcSchema.Naming

/-- The traits that every struct derives. -/
def structDerives : String := "Debug, Clone, PartialEq, Default"

/-- A struct with the given fields. -/
def structItem (schema : Schema) (doc : List String) (name : String) (fields : List Field) : Item :=
  .struct doc (some structDerives) name "" <| fields.map fun field =>
    let type := fieldType schema field.type field.optional
    s!"pub {memberName field.name}: {type},"

/-- The variants of an enum, numbered in order; the first one is the default. -/
def enumVariants (index : Nat) : List String → List String
  | [] => []
  | label :: rest =>
    (if index = 0 then ["#[default]"] else []) ++
      s!"{variantName label} = {index}," :: enumVariants (index + 1) rest

/-- The enum of some labels. -/
def enumItem (name : String) (labels : List String) (union : Option String) : Item :=
  .enum (union.map fun union => s!"Discriminant of union '{union}'.").toList
    "Debug, Clone, Copy, PartialEq, Eq, Hash, Default" (typeName name) (enumVariants 0 labels)

/-- The enum of a union, with one variant for each member. -/
def unionItem (schema : Schema) (name : String) (members : List Field) : Item :=
  .enum [s!"Exactly one of the members of union '{name}'."] "Debug, Clone, PartialEq"
    (typeName name) <| members.map fun member =>
      let type := render schema .result member.type
      s!"{variantName member.name}({type}),"

/-- The struct around the payload of a handle. -/
def handleItem (schema : Schema) (name : String) (payload : TypeRef) : Item :=
  let type := render schema .result payload
  .struct [] (some structDerives) (typeName name) "" [s!"pub handle: {type},"]

/-- The names that go with the payload type of an event. -/
def eventAliases (runtime name : String) : Item :=
  .aliases
    [(eventFuncName name, s!"dyn Fn(&{eventTypeName name}) + Send + Sync"),
      (eventSignalName name, s!"{runtime}::Signal<{eventTypeName name}>")]

/-- The items that declare the types of a definition. -/
def definitionTypeItems (c : Context) (d : Definition) : List Item :=
  let schema := c.schema
  (d.aggregates.map fun a => structItem schema [] a.name a.fields) ++
    match d.body with
    | .enum labels union => [enumItem d.name labels union]
    | .struct fields => [structItem schema [] (typeName d.name) fields]
    | .union members => [unionItem schema d.name members]
    | .handle payload => [handleItem schema d.name payload]
    | .event fields =>
      [structItem schema [s!"Payload of the `{d.name}` event."] (eventTypeName d.name) fields,
        eventAliases c.runtime d.name]
    | .command _ _ => []
    | .option _ _ => []

/-- The items that declare the types of the schema. -/
def typeItems (c : Context) : List Item := c.schema.definitions.flatMap (definitionTypeItems c)

end RpcSchema.Code
