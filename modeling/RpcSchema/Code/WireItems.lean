import RpcSchema.Code.Aggregate
import RpcSchema.Code.ImplItems

/-!
# Conversions to and from the wire

The items that write the values of a type as JSON and read them back, for every type that crosses
the wire. Structs are objects with a key for each field that is present, enums are the number of
their label, unions are objects with the number of the member under `kind` and the member itself,
and handles are objects marked with their type.

## Main definitions

* `objectWireItems`, `enumWireItems`, `unionWireItems`, `handleWireItems` — one type
* `definitionWireItems` — the items of one definition
* `wireItems` — the items of the schema
-/

namespace RpcSchema.Code

open RpcSchema.Naming

/-- The two implementations of a type: writing and reading. -/
def conversionItems (c : Context) (name : String) (write read : List Step) : List Item :=
  let rt := c.runtime
  [ .implementation s!" {rt}::Marshal for {name}"
      [method false "marshal" "&self" [] (some s!"Result<{rt}::Value, {rt}::RpcError>") write],
    .implementation s!" {rt}::Unmarshal for {name}"
      [method false "unmarshal" "" [⟨"value", s!"&{rt}::Value"⟩]
        (some s!"Result<Self, {rt}::RpcError>") read] ]

/-- The step that writes a field, if it is present. -/
def fieldWriteStep (rt : String) (field : Field) : Step :=
  let member := memberName field.name
  if field.optional then
    .braced s!"if let Some(value) = &self.{member}"
      [.line s!"{rt}::insert(&mut obj, \"{field.name}\", value)?;"]
  else .line s!"{rt}::insert(&mut obj, \"{field.name}\", &self.{member})?;"

/-- The conversions of a struct, an event or fields in place. -/
def objectWireItems (c : Context) (name : String) (fields : List Field) : List Item :=
  let rt := c.runtime
  if fields.isEmpty then
    conversionItems c name [.line s!"Ok({rt}::Value::Object({rt}::Map::new()))"]
      [.line s!"{rt}::expect_object(value)?;", .line ("Ok(" ++ name ++ " \x7b\x7d)")]
  else
    conversionItems c name
      (.line s!"let mut obj = {rt}::Map::new();" :: fields.map (fieldWriteStep rt) ++
        [.line s!"Ok({rt}::Value::Object(obj))"])
      [ .line s!"let obj = {rt}::expect_object(value)?;",
        .block ("Ok(" ++ name ++ " \x7b") "\x7d)" <| fields.map fun field =>
          .line s!"{memberName field.name}: {rt}::{reader field}(obj, \"{field.name}\")?," ]

/-- The conversions of an enum. -/
def enumWireItems (c : Context) (enum : String) : List Item :=
  let rt := c.runtime
  let name := typeName enum
  conversionItems c name [.line s!"Ok({rt}::Value::from(*self as i64))"]
    [ .line s!"let index = <i64 as {rt}::Unmarshal>::unmarshal(value)?;",
      .line (s!"{name}::from_i64(index).ok_or_else(|| " ++
        s!"{rt}::RpcError::invalid_value(\"a valid {name}\"))") ]

/-- The conversions of a union. -/
def unionWireItems (c : Context) (union : String) (members : List Field) : List Item :=
  let rt := c.runtime
  let name := typeName union
  let kind := typeName (kindName union)
  let list := ", ".intercalate (members.map fun member => s!"\"{member.name}\"")
  conversionItems c name
    [ .line s!"let mut obj = {rt}::Map::new();",
      .line s!"{rt}::insert(&mut obj, \"kind\", &self.kind())?;",
      .braced "match self" <| members.map fun member =>
        let variant := variantName member.name
        .line s!"{name}::{variant}(value) => {rt}::insert(&mut obj, \"{member.name}\", value)?,",
      .line s!"Ok({rt}::Value::Object(obj))" ]
    [ .line s!"let obj = {rt}::expect_object(value)?;",
      .line s!"let index: i64 = {rt}::required(obj, \"kind\")?;",
      .line (s!"let kind = {kind}::from_i64(index).ok_or_else(|| " ++
        s!"{rt}::RpcError::invalid_value(\"a valid {kind}\").in_field(\"kind\"))?;"),
      .block "let union = match kind \x7b" "\x7d;" <| members.map fun member =>
        let variant := variantName member.name
        .line (s!"{kind}::{variant} => " ++
          s!"{name}::{variant}({rt}::required(obj, \"{member.name}\")?),"),
      .line s!"{rt}::ensure_single_member(obj, \"{union}\", &[{list}], kind.as_str())?;",
      .line "Ok(union)" ]

/-- The conversions of a handle. -/
def handleWireItems (c : Context) (handle : String) (payload : TypeRef) : List Item :=
  let rt := c.runtime
  let name := typeName handle
  let type := render c.schema .result payload
  let inData := s!".map_err(|err: {rt}::RpcError| err.in_field(\"data\"))?;"
  conversionItems c name
    [ .line s!"let payload = {rt}::Marshal::marshal(&self.handle){inData}",
      .line s!"Ok({rt}::marshal_handle(\"{handle}\", payload))" ]
    [ .line s!"let payload = {rt}::unmarshal_handle(value, \"{handle}\")?;",
      .line s!"let handle: {type} = {rt}::Unmarshal::unmarshal(payload){inData}",
      .line ("Ok(" ++ name ++ " \x7b handle \x7d)") ]

/-- The conversions of a definition's own type. -/
def ownWireItems (c : Context) (d : Definition) : List Item :=
  match d.body with
  | .enum _ _ => enumWireItems c d.name
  | .struct fields => objectWireItems c (typeName d.name) fields
  | .union members => unionWireItems c d.name members
  | .handle payload => handleWireItems c d.name payload
  | .event fields => objectWireItems c (eventTypeName d.name) fields
  | .command _ _ => []
  | .option _ _ => []

/-- The conversions of a definition, as far as its types cross the wire. -/
def definitionWireItems (c : Context) (d : Definition) : List Item :=
  ((d.aggregates.filter fun a => c.reach.wire.contains a.name).flatMap fun a =>
      objectWireItems c a.name a.fields) ++
    if c.reach.wire.contains d.name then ownWireItems c d else []

/-- The conversions of the schema. -/
def wireItems (c : Context) : List Item := c.schema.definitions.flatMap (definitionWireItems c)

end RpcSchema.Code
