import RpcSchema.Naming

/-!
# Schemas

What a schema defines. Structs, enums, unions, handles and events are types and share one
namespace; commands and options have a namespace each. A union brings a second definition with
it, the enum whose labels are its members.

A type is written as a scalar, a name, a list or a set of fields in place. A name is known to be
an enum or not from the start; what else it names is looked up.

## Main definitions

* `Scalar`, `TypeRef`, `Field` — types as written in a position
* `Body`, `Definition` — what a definition declares, with its name and line
* `Schema`, `Schema.lookup?` — the definitions in order, and the type of a name
* `Schema.returnedEvent?` — the event that a command returns a signal of
-/

namespace RpcSchema

/-! ### Types -/

/-- The built-in types. -/
inductive Scalar
  | str
  | int
  | bool
  | number
  | none
  deriving Repr, DecidableEq

/-- The word for a scalar. -/
def Scalar.keyword : Scalar → String
  | .str => "str"
  | .int => "int"
  | .bool => "bool"
  | .number => "number"
  | .none => "none"

/-- The scalar of a word. -/
def Scalar.ofKeyword? (word : String) : Option Scalar :=
  [Scalar.str, .int, .bool, .number, .none].find? (·.keyword == word)

/-- A field, parameter or member over types of the kind `T`. -/
structure FieldOf (T : Type) where
  name : String
  type : T
  optional : Bool
  deriving DecidableEq

/-- A type as written in a position. -/
inductive TypeRef
  | scalar (scalar : Scalar)
  /-- a name that is known to be an enum -/
  | enum (name : String)
  /-- any other name -/
  | named (name : String)
  | array (item : TypeRef)
  /-- fields in place, under a name made from where they stand -/
  | anonymous (name : String) (fields : List (FieldOf TypeRef))
  deriving Inhabited

mutual

/-- Whether two types are written in the same way. -/
def TypeRef.decEq : (s t : TypeRef) → Decidable (s = t)
  | .scalar a, .scalar b => decidable_of_iff (a = b) (by simp)
  | .enum a, .enum b => decidable_of_iff (a = b) (by simp)
  | .named a, .named b => decidable_of_iff (a = b) (by simp)
  | .array s, .array t =>
    have := TypeRef.decEq s t
    decidable_of_iff (s = t) (by simp)
  | .anonymous a fs, .anonymous b gs =>
    have := decEqFields fs gs
    decidable_of_iff (a = b ∧ fs = gs) (by simp)
  | .scalar _, .enum _ | .scalar _, .named _ | .scalar _, .array _ | .scalar _, .anonymous _ _
  | .enum _, .scalar _ | .enum _, .named _ | .enum _, .array _ | .enum _, .anonymous _ _
  | .named _, .scalar _ | .named _, .enum _ | .named _, .array _ | .named _, .anonymous _ _
  | .array _, .scalar _ | .array _, .enum _ | .array _, .named _ | .array _, .anonymous _ _
  | .anonymous _ _, .scalar _ | .anonymous _ _, .enum _ | .anonymous _ _, .named _
  | .anonymous _ _, .array _ => .isFalse (by simp)

/-- Whether two lists of fields are the same. -/
def decEqFields : (fs gs : List (FieldOf TypeRef)) → Decidable (fs = gs)
  | [], [] => .isTrue rfl
  | [], _ :: _ | _ :: _, [] => .isFalse (by simp)
  | ⟨a, s, o⟩ :: fs, ⟨b, t, p⟩ :: gs =>
    have := TypeRef.decEq s t
    have := decEqFields fs gs
    decidable_of_iff ((a = b ∧ s = t ∧ o = p) ∧ fs = gs) (by simp)

end

instance : DecidableEq TypeRef := TypeRef.decEq

/-- A field, parameter or member. -/
abbrev Field := FieldOf TypeRef

/-- Whether a type is the scalar `none`. -/
def TypeRef.isNone : TypeRef → Bool
  | .scalar .none => true
  | _ => false

/-- A type in schema notation, with the made names of fields in place. -/
def TypeRef.describe : TypeRef → String
  | .scalar s => s.keyword
  | .enum name => name
  | .named name => name
  | .array item => "[" ++ item.describe ++ "]"
  | .anonymous name _ => name

/-! ### Definitions -/

/-- The parameters of a command: fields, or any members at all. -/
inductive Params
  | fields (fields : List Field)
  | freeForm
  deriving DecidableEq

/-- The fields of the parameters; free-form ones have none. -/
def Params.toFields : Params → List Field
  | .fields fs => fs
  | .freeForm => []

/-- Whether the parameters are free-form. -/
def Params.isFreeForm : Params → Bool
  | .fields _ => false
  | .freeForm => true

/-- What a definition declares. -/
inductive Body
  | struct (fields : List Field)
  /-- an enum; the enum of a union's members names the union -/
  | enum (labels : List String) (union : Option String)
  | union (members : List Field)
  | handle (payload : TypeRef)
  | event (fields : List Field)
  | command (params : Params) (returns : TypeRef)
  /-- an option, without a type if it takes no argument -/
  | option (type : Option TypeRef) (implicit : Option String)
  deriving DecidableEq

/-- A definition and the line of its entry. -/
structure Definition where
  name : String
  line : Nat
  body : Body
  deriving DecidableEq

/-- The kinds of definitions, which are the words that start an entry. -/
inductive Kind
  | struct
  | enum
  | union
  | handle
  | event
  | command
  | option
  deriving Repr, DecidableEq

/-- The word that starts an entry of the kind. -/
def Kind.keyword : Kind → String
  | .struct => "type"
  | .enum => "enum"
  | .union => "union"
  | .handle => "handle"
  | .event => "event"
  | .command => "command"
  | .option => "option"

/-- The kind of a word. -/
def Kind.ofKeyword? (word : String) : Option Kind :=
  [Kind.struct, .enum, .union, .handle, .event, .command, .option].find? (·.keyword == word)

/-- The kind of what is declared. -/
def Body.kind : Body → Kind
  | .struct _ => .struct
  | .enum _ _ => .enum
  | .union _ => .union
  | .handle _ => .handle
  | .event _ => .event
  | .command _ _ => .command
  | .option _ _ => .option

/-- Whether the kind belongs to the namespace of types. -/
def Kind.isType : Kind → Bool
  | .command | .option => false
  | _ => true

/-- The kind of a definition. -/
def Definition.kind (d : Definition) : Kind := d.body.kind

/-- Whether a definition declares a type. -/
def Definition.isType (d : Definition) : Bool := d.kind.isType

/-- The types of some fields. -/
def fieldTypes (fields : List Field) : List TypeRef := fields.map (·.type)

/-! ### Schemas -/

/-- The definitions of a schema, in order. -/
structure Schema where
  definitions : List Definition
  deriving DecidableEq

namespace Schema

/-- The type of a name: the first one declared under it. -/
def lookup? (schema : Schema) (name : String) : Option Definition :=
  schema.definitions.find? fun d => d.isType && d.name == name

/-- The definitions of a kind, in order. -/
def ofKind (schema : Schema) (kind : Kind) : List Definition :=
  schema.definitions.filter (·.kind == kind)

/-- The names of the definitions of a kind, in order. -/
def names (schema : Schema) (kind : Kind) : List String := (schema.ofKind kind).map (·.name)

/-- The event that a return type names. A command that returns an event hands back its signal. -/
def returnedEvent? (schema : Schema) : TypeRef → Option Definition
  | .named name => (schema.lookup? name).filter (·.kind == .event)
  | _ => none

end Schema

end RpcSchema
