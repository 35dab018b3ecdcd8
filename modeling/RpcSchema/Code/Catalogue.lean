import RpcSchema.Code.Convention
import RpcSchema.Json.Printer

/-!
# The catalogue of a schema

What a schema declares, as JSON for programs that bind to it: its commands with their methods,
classes, arguments and results, its events with their fields, and its types.

## Main definitions

* `commandEntry`, `eventEntry`, `typeEntry` — one definition
* `catalogue` — the whole schema, indented
-/

namespace RpcSchema.Code

/-- A field. -/
def fieldEntry (field : Field) : Json :=
  .object [("name", .string field.name), ("type", .string field.type.describe),
    ("optional", .bool field.optional)]

/-- The arguments of a command: pairs of a name and whether it may be left out, or `**`. -/
def argumentsEntry : Params → Json
  | .freeForm => .string "**"
  | .fields fields =>
    .array (fields.map fun field => .array [.string field.name, .bool field.optional])

/-- A command. -/
def commandEntry (command : Command) : Json :=
  .object [("name", .string command.name), ("method", .string (Naming.memberName command.name)),
    ("kind", .string command.handling.word), ("arguments", argumentsEntry command.params),
    ("returns", .string command.returns.describe)]

/-- An event. -/
def eventEntry (event : Event) : Json :=
  .object [("name", .string event.name), ("fields", .array (event.fields.map fieldEntry))]

/-- A member of an entry, left out if it is an empty list. -/
def unlessEmpty (key : String) (items : List Json) : List (String × Json) :=
  if items.isEmpty then [] else [(key, .array items)]

/-- A type that is no event. -/
def typeEntry? (d : Definition) : Option Json :=
  let entry (fields labels : List Json) : Json :=
    .object ([("name", .string d.name), ("meta", .string d.kind.keyword)] ++
      unlessEmpty "fields" fields ++ unlessEmpty "labels" labels)
  match d.body with
  | .struct fields => some (entry (fields.map fieldEntry) [])
  | .union members => some (entry (members.map fieldEntry) [])
  | .enum labels _ => some (entry [] (labels.map .string))
  | .handle payload => some (entry [fieldEntry ⟨"data", payload, false⟩] [])
  | .event _ => none
  | .command _ _ => none
  | .option _ _ => none

/-- The whole schema. -/
def catalogueJson (c : Context) : Json :=
  .object [("commands", .array (c.commands.map commandEntry)),
    ("events", .array (c.events.map eventEntry)),
    ("types", .array (c.schema.definitions.filterMap typeEntry?))]

/-- The whole schema as text, with a newline at the end. -/
def catalogue (c : Context) : String := (catalogueJson c).indented ++ "\n"

end RpcSchema.Code
