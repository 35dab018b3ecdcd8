import RpcSchema.Schema.Basic

/-!
# Names that a schema gives to generated code

Every name that code generated from a schema declares, by what it names. Distinct schema names
can meet here, because the derivations of `Naming` forget case and hyphens; the verifier compares
these lists.

## Main definitions

* `anonymousNames` — the names of fields in place inside a type
* `Definition.typeNames` — the types declared for a definition
* `commandStub`, `eventNotifier`, `optionStub` — the functions declared for one
* `reservedNames`, `preludeTypes`, `reservedCommands`, … — names that are taken
-/

namespace RpcSchema

open RpcSchema.Naming

/-! ### Fields in place -/

mutual

/-- The names of the fields in place inside a type, outer ones first. -/
def anonymousNames : TypeRef → List String
  | .array item => anonymousNames item
  | .anonymous name fields => name :: anonymousFieldNames fields
  | _ => []

/-- The names of the fields in place inside the types of some fields. -/
def anonymousFieldNames : List (FieldOf TypeRef) → List String
  | [] => []
  | field :: rest => anonymousNames field.type ++ anonymousFieldNames rest

end

/-! ### Definitions -/

/-- The type of functions that take the payload of an event. -/
def eventFuncName (event : String) : String := pascalCase event ++ "Func"

/-- The type of the signal that sends an event. -/
def eventSignalName (event : String) : String := pascalCase event ++ "Signal"

/-- The names of the types declared for a definition. -/
def Definition.typeNames (d : Definition) : List String :=
  match d.body with
  | .struct fields => typeName d.name :: anonymousFieldNames fields
  | .enum _ _ => [typeName d.name]
  | .union members => typeName d.name :: anonymousFieldNames members
  | .handle payload => typeName d.name :: anonymousNames payload
  | .event fields =>
    [eventTypeName d.name, eventFuncName d.name, eventSignalName d.name] ++
      anonymousFieldNames fields
  | .command params returns => anonymousFieldNames params.toFields ++ anonymousNames returns
  | .option type _ => (type.map anonymousNames).getD []

/-- The function that runs a command on JSON arguments. -/
def commandStub (command : String) : String := "qmp_marshal_" ++ snakeCase command

/-- The function that emits an event. -/
def eventNotifier (event : String) : String := "notify_" ++ snakeCase event

/-- The function that runs an option on text. -/
def optionStub (option : String) : String := "qcfg_unmarshal_" ++ snakeCase option

/-! ### Names that are taken -/

/-- Names that no type may have: those of scalars, and of types that every generated file
declares. -/
def reservedNames : List String :=
  ["str", "int", "bool", "number", "none",
   "QmpHandlers", "QmpClient", "QmpEventHandlers", "QcfgHandlers"]

/-- Types that generated code names without a path. -/
def preludeTypes : List String :=
  ["Box", "Default", "Option", "Result", "Send", "Sized", "String", "Sync", "ToOwned", "Vec"]

/-- Methods of the client besides the commands. -/
def reservedCommands : List String := ["new", "transport"]

/-- Parameters and locals of generated command functions. -/
def reservedParameters : List String := ["session", "done", "args"]

/-- Parameters of generated event functions. -/
def reservedEventFields : List String := ["signal"]

end RpcSchema
