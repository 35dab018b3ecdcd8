import RpcSchema.Code.Convention
import RpcSchema.Schema.GeneratedNames

/-!
# Schema types in generated code

How a schema type is written in Rust. A type has two forms: owned values stand in fields, locals
and results, and borrowed ones in parameters. Numbers, truth values and enums are small and are
copied in both.

## Main definitions

* `Position` — where a type stands
* `render` — a type as code
* `fieldType`, `paramType` — the same for a field and a parameter, which may be optional
* `ownsData`, `freeFunction?` — whether a value owns data, and how it is released
* `passOwned`, `toOwned`, `borrowed` — expressions that go from one form to the other
-/

namespace RpcSchema.Code

open RpcSchema.Naming

/-- Where a type stands. -/
inductive Position
  /-- borrowed: the parameter of a handler or a client method -/
  | param
  /-- owned: a field, a local or a result -/
  | result
  deriving Repr, DecidableEq

/-! ### Names -/

/-- The type declared for a name; that of an event is its payload. -/
def declaredName (schema : Schema) (name : String) : String :=
  match schema.lookup? name with
  | some ⟨_, _, .event _⟩ => eventTypeName name
  | _ => typeName name

/-- The owned form of a name. A result that is an event is the signal to subscribe to. -/
def ownedName (schema : Schema) (name : String) : String :=
  match schema.lookup? name with
  | some ⟨_, _, .event _⟩ => eventSignalName name
  | _ => typeName name

/-! ### Types -/

/-- A scalar as code. -/
def renderScalar : Position → Scalar → String
  | .param, .str => "&str"
  | .result, .str => "String"
  | _, .int => "i64"
  | _, .bool => "bool"
  | _, .number => "f64"
  | _, .none => "()"

/-- A type as code. The items of a list are owned in both forms. -/
def render (schema : Schema) (position : Position) : TypeRef → String
  | .scalar s => renderScalar position s
  | .enum name => typeName name
  | .named name =>
    match position with
    | .param => "&" ++ declaredName schema name
    | .result => ownedName schema name
  | .anonymous name _ =>
    match position with
    | .param => "&" ++ name
    | .result => name
  | .array item =>
    match position with
    | .param => "&[" ++ render schema .result item ++ "]"
    | .result => "Vec<" ++ render schema .result item ++ ">"

/-- A type that may be absent. -/
def optionalType (optional : Bool) (type : String) : String :=
  if optional then "Option<" ++ type ++ ">" else type

/-- The type of a field or a local. -/
def fieldType (schema : Schema) (type : TypeRef) (optional : Bool) : String :=
  optionalType optional (render schema .result type)

/-- The type of a parameter. -/
def paramType (schema : Schema) (type : TypeRef) (optional : Bool) : String :=
  optionalType optional (render schema .param type)

/-! ### Release -/

/-- Whether a value owns data: text, lists and aggregates do. -/
def ownsData : TypeRef → Bool
  | .scalar .str => true
  | .scalar _ => false
  | .enum _ => false
  | _ => true

/-- The function that releases an aggregate declared under a name. -/
def freeFunction (declared : String) : String := "free_" ++ snakeCase declared

/-- The function that releases an owned value. A list of values that own nothing is dropped. -/
def freeFunction? (schema : Schema) : TypeRef → Option String
  | .named name => some (freeFunction (declaredName schema name))
  | .anonymous name _ => some (freeFunction name)
  | .array item => some ((freeFunction? schema item).getD "drop")
  | .scalar .str => some "drop"
  | .scalar _ => none
  | .enum _ => none

/-! ### Expressions -/

/-- Whether values are copied rather than borrowed. -/
def isCopied : TypeRef → Bool
  | .enum _ => true
  | .scalar .str => false
  | .scalar _ => true
  | _ => false

/-- An owned local handed to a parameter of its type. -/
def passOwned (type : TypeRef) (optional : Bool) (owned : String) : String :=
  if isCopied type then owned
  else if !optional then "&" ++ owned
  else
    match type with
    | .scalar .str => owned ++ ".as_deref()"
    | .array _ => owned ++ ".as_deref()"
    | _ => owned ++ ".as_ref()"

/-- A parameter made into an owned value. -/
def toOwned (type : TypeRef) (optional : Bool) (param : String) : String :=
  if isCopied type then param
  else if optional then param ++ ".map(ToOwned::to_owned)"
  else param ++ ".to_owned()"

/-- A reference to the value of a parameter. -/
def borrowed (type : TypeRef) (param : String) : String :=
  if isCopied type then "&" ++ param else param

/-- The function of the runtime that reads a field. -/
def reader (field : Field) : String := if field.optional then "optional" else "required"

end RpcSchema.Code
