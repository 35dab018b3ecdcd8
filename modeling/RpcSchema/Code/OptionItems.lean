import RpcSchema.Code.Aggregate
import RpcSchema.Code.ServerItems

/-!
# Options

The trait that an implementation of the options fills in, the conversions that read option types
from keys and values, the functions between the two, and a function that registers them.

## Main definitions

* `optionTraitItems` — the trait
* `definitionReadItems` — the conversions of one definition
* `optionFunction` — the function of one option
* `optionItems` — conversions and functions
-/

namespace RpcSchema.Code

open RpcSchema.Naming

/-! ### The trait of handlers -/

/-- The handler of an option, which takes its value if it has one. -/
def optionMethod (c : Context) (option : OptionEntry) : Function where
  doc := []
  isPublic := false
  signature := ⟨memberName option.name, "", some "&self",
    (option.type.map fun type => ⟨"value", paramType c.schema type false⟩).toList,
    some s!"Result<(), {c.runtime}::RpcError>"⟩
  body := none

/-- The trait of handlers. -/
def optionTraitItems (c : Context) : List Item :=
  [.trait ["Implementations of the command line options of this schema."] "QcfgHandlers"
    ": Send + Sync + 'static" (c.options.map fun option => .method (optionMethod c option))]

/-! ### Conversions -/

/-- The conversion of a type, with the name of its parameter. -/
def readItem (c : Context) (name param : String) (body : List Step) : Item :=
  let rt := c.runtime
  .implementation s!" {rt}::FromKeyValues for {name}"
    [method false "from_key_values" "" [⟨param, s!"&{rt}::KeyValues"⟩]
      (some s!"Result<Self, {rt}::RpcError>") body]

/-- The conversion of a struct or of fields in place. -/
def structReadItem (c : Context) (name : String) (fields : List Field) : Item :=
  if fields.isEmpty then readItem c name "_kvs" [.line ("Ok(" ++ name ++ " \x7b\x7d)")]
  else
    readItem c name "kvs"
      [.block ("Ok(" ++ name ++ " \x7b") "\x7d)" <| fields.map fun field =>
        .line s!"{memberName field.name}: kvs.{reader field}(\"{field.name}\")?,"]

/-- The conversion of a definition's own type. -/
def ownReadItems (c : Context) (d : Definition) : List Item :=
  match d.body with
  | .struct fields => [structReadItem c (typeName d.name) fields]
  | .enum _ _ => [readItem c (typeName d.name) "kvs" [.line "kvs.value()?.parse()"]]
  | _ => []

/-- The conversions of a definition, as far as its types come from option text. -/
def definitionReadItems (c : Context) (d : Definition) : List Item :=
  ((d.aggregates.filter fun a => c.reach.options.contains a.name).map fun a =>
      structReadItem c a.name a.fields) ++
    if c.reach.options.contains d.name then ownReadItems c d else []

/-! ### The function of one option -/

/-- The function that runs an option on text. -/
def optionFunction (c : Context) (option : OptionEntry) : Function :=
  let rt := c.runtime
  let handler := memberName option.name
  { doc := []
    isPublic := true
    signature := ⟨optionStub option.name, "<H: QcfgHandlers + ?Sized>", none,
      ⟨"handler", "&H"⟩ :: (option.type.map fun _ => ⟨"kvs", s!"&{rt}::KeyValues"⟩).toList,
      some s!"Result<(), {rt}::RpcError>"⟩
    body := some <|
      match option.type with
      | some type =>
        let value := passOwned type false "value"
        [ .line (s!"let value: {render c.schema .result type} = " ++
            s!"{rt}::FromKeyValues::from_key_values(kvs)?;"),
          .line s!"handler.{handler}({value})" ]
      | none => [.line s!"handler.{handler}()"] }

/-! ### All options -/

/-- How the text of an option is split: that of a scalar or enum is one value. -/
def optionSyntax (rt : String) (implicit : Option String) : TypeRef → String
  | .scalar _ => s!"{rt}::OptionSyntax::Scalar"
  | .enum _ => s!"{rt}::OptionSyntax::Scalar"
  | _ =>
    let key := match implicit with
      | some key => s!"Some(\"{key}\")"
      | none => "None"
    s!"{rt}::OptionSyntax::KeyValues " ++ "\x7b implicit: " ++ key ++ " \x7d"

/-- The line that registers an option. -/
def optionRegistration (c : Context) (option : OptionEntry) : String :=
  let rt := c.runtime
  let stub := optionStub option.name
  match option.type with
  | some type =>
    s!"registry.register_arg(\"{option.name}\", {optionSyntax rt option.implicit type}, " ++
      s!"move |kvs: &{rt}::KeyValues| {stub}(&*h, kvs));"
  | none => s!"registry.register_noarg(\"{option.name}\", move || {stub}(&*h));"

/-- The function that registers all options. -/
def registerOptionsFunction (c : Context) : Function where
  doc := ["Registers an unmarshalling stub for every option, all sharing `handler`."]
  isPublic := true
  signature := ⟨"register_options", "<H: QcfgHandlers>", none,
    [⟨"registry", s!"&mut {c.runtime}::OptionRegistry"⟩, sharedHandler (!c.options.isEmpty)], none⟩
  body := some <|
    c.options.flatMap fun option => [shareHandler, .line (optionRegistration c option)]

/-- The conversions and functions of the options of the schema. -/
def optionItems (c : Context) : List Item :=
  c.schema.definitions.flatMap (definitionReadItems c) ++
    (c.options.map fun option => .function (optionFunction c option)) ++
    [.function (registerOptionsFunction c)]

end RpcSchema.Code
