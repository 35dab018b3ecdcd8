import RpcSchema.Code.Aggregate
import RpcSchema.Code.Item
import RpcSchema.Code.Rendering

/-!
# Methods of declared types

The items that give the declared types their methods: allocation, presence of optional fields,
labels of enums, the member that a union holds, a bound on the size, and the function that releases
a value.

The default value of a union is that of its first member, so a union without members, which no
verified schema has, has no methods.

## Main definitions

* `Fault` — what cannot be generated
* `definitionImplItems` — the items of one definition
* `implItems` — the items of the schema
-/

namespace RpcSchema.Code

open RpcSchema.Naming

/-- What cannot be generated: the methods of a union without members. -/
inductive Fault
  | noMembers (union : String)

/-- The wording of what cannot be generated: there is no first member. -/
def Fault.message : Fault → String
  | .noMembers _ => "index out of bounds"

/-! ### Methods -/

/-- The method that allocates a default value. -/
def allocMethod : Member :=
  method true "alloc" "" [] (some "Box<Self>") [.line "Box::default()"]

/-- The method that tells whether an optional field is present. -/
def presenceMethod (field : Field) : Member :=
  method true (presenceName field.name) "&self" [] (some "bool")
    [.line s!"self.{memberName field.name}.is_some()"]

/-! ### Release -/

/-- The bound on the size of an aggregate and the function that releases it. -/
def releaseItems (c : Context) (name : String) (type : TypeRef) : List Item :=
  .constant s!"const _: () = assert!(std::mem::size_of::<{name}>() <= {c.config.maxTypeSize});" ::
    match freeFunction? c.schema type with
    | some free =>
      [.function ⟨[], true, ⟨free, "", none, [⟨"obj", s!"Box<{name}>"⟩], none⟩,
        some [.line "drop(obj)"]⟩]
    | none => []

/-! ### Definitions -/

/-- The items of a struct. -/
def structImplItems (c : Context) (name : String) (fields : List Field) (type : TypeRef) :
    List Item :=
  .implementation s!" {name}" (allocMethod :: (fields.filter (·.optional)).map presenceMethod) ::
    releaseItems c name type

/-- The arms of a match over the labels of an enum, numbered from `index`. -/
def indexArms (name : String) (index : Nat) : List String → List Step
  | [] => []
  | label :: rest =>
    .line s!"{index} => Some({name}::{variantName label})," :: indexArms name (index + 1) rest

/-- The items of an enum: its labels, and its values from labels and numbers. -/
def enumImplItems (c : Context) (enum : String) (labels : List String) : List Item :=
  let name := typeName enum
  let rt := c.runtime
  let list := ", ".intercalate (labels.map fun label => s!"\"{label}\"")
  [ .implementation s!" {name}"
      [ .line s!"pub const LABELS: &'static [&'static str] = &[{list}];",
        method true "as_str" "&self" [] (some "&'static str")
          [.braced "match self" <| labels.map fun label =>
            .line s!"{name}::{variantName label} => \"{label}\","],
        method true "from_i64" "" [⟨"value", "i64"⟩] (some "Option<Self>")
          [.braced "match value" (indexArms name 0 labels ++ [.line "_ => None,"])] ],
    .implementation s!" std::str::FromStr for {name}"
      [ .line s!"type Err = {rt}::RpcError;",
        method false "from_str" "" [⟨"text", "&str"⟩] (some "Result<Self, Self::Err>")
          [.braced "match text" <|
            (labels.map fun label => .line s!"\"{label}\" => Ok({name}::{variantName label}),") ++
              [.line s!"_ => Err({rt}::RpcError::invalid_value(\"a valid {name}\")),"]] ],
    .implementation s!" std::fmt::Display for {name}"
      [ method false "fmt" "&self" [⟨"f", "&mut std::fmt::Formatter<'_>"⟩]
          (some "std::fmt::Result") [.line "f.write_str(self.as_str())"] ] ]

/-- The items of a union whose first member is given. -/
def unionImplItems (c : Context) (union : String) (first : Field) (members : List Field) :
    List Item :=
  let name := typeName union
  let kind := typeName (kindName union)
  [ .implementation s!" {name}"
      [ method true "kind" "&self" [] (some kind)
          [.braced "match self" <| members.map fun member =>
            let variant := variantName member.name
            .line s!"{name}::{variant}(_) => {kind}::{variant},"],
        allocMethod ],
    .implementation s!" Default for {name}"
      [ method false "default" "" [] (some "Self")
          [.line s!"{name}::{variantName first.name}(Default::default())"] ] ] ++
    releaseItems c name (.named union)

/-- The items of a handle. -/
def handleImplItems (c : Context) (handle : String) (payload : TypeRef) : List Item :=
  let name := typeName handle
  .implementation s!" {name}"
      [ method true "new" "" [⟨"handle", render c.schema .result payload⟩] (some "Self")
          [.line (name ++ " \x7b handle \x7d")],
        allocMethod ] ::
    releaseItems c name (.named handle)

/-- The items of an event. -/
def eventImplItems (c : Context) (event : String) (fields : List Field) : List Item :=
  let payload := eventTypeName event
  .implementation s!" {c.runtime}::Event for {payload}"
      [.line s!"const NAME: &'static str = \"{event}\";"] ::
    structImplItems c payload fields (.named event)

/-- The items that give methods to the types of a definition. -/
def definitionImplItems (c : Context) (d : Definition) : Except Fault (List Item) := do
  let inner := d.aggregates.flatMap fun a =>
    structImplItems c a.name a.fields (.anonymous a.name a.fields)
  let own ← match d.body with
    | .enum labels _ => pure (enumImplItems c d.name labels)
    | .struct fields => pure (structImplItems c (typeName d.name) fields (.named d.name))
    | .union [] => throw (.noMembers d.name)
    | .union (first :: rest) => pure (unionImplItems c d.name first (first :: rest))
    | .handle payload => pure (handleImplItems c d.name payload)
    | .event fields => pure (eventImplItems c d.name fields)
    | .command _ _ => pure []
    | .option _ _ => pure []
  return inner ++ own

/-- The items that give methods to the types of the schema. -/
def implItems (c : Context) : Except Fault (List Item) := do
  return (← c.schema.definitions.mapM (definitionImplItems c)).flatten

end RpcSchema.Code
