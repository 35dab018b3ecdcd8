import RpcSchema.Entry.Parser
import RpcSchema.Schema.Basic

/-!
# Schemas built from entries

Each entry declares what the word of its first key says, under the name that is the key's value.
Building goes over the entries twice. The first pass reads the heads and collects the names of
all enums, declared ones and those of unions; the second makes the definitions. So an entry's
definitions depend on the other entries through that set of names alone, and the order of entries
has no say in them.

## Main definitions

* `BuildFault`, `BuildError` — why an entry defines nothing
* `Head`, `head` — the kind and name that an entry declares
* `enumNames` — the enums of the schema
* `typeRef`, `fields` — types and fields from values
* `bodies`, `entryDefinitions` — what one entry declares
* `build` — the schema of a list of entries
-/

namespace RpcSchema.Schema

open RpcSchema.Entry (Value Parsed)
open RpcSchema.Text

/-! ### Errors -/

/-- Why an entry defines nothing. -/
inductive BuildFault
  | notAMap (found : String)
  | emptyEntry
  | unknownKind (word : String)
  | nameNotString (kind : Kind)
  | unexpectedKey (key : String) (kind : Kind) (name : String)
  | noData (kind : Kind) (name : String)
  | labelsNotList (enum : String)
  | labelNotString (enum : String)
  | optionalMember (member union : String)
  | implicitNotString (option : String)
  | fieldsNotMap (owner : String) (found : String)
  | arrayItems (field owner : String)
  deriving DecidableEq

/-- The wording of a fault. -/
def BuildFault.message : BuildFault → String
  | .notAMap found => "Expected an object entry but found a " ++ found
  | .emptyEntry => "Empty entry"
  | .unknownKind word => "Unknown definition kind " ++ quote word
  | .nameNotString kind => "The name of a " ++ kind.keyword ++ " must be a string"
  | .unexpectedKey key kind name =>
    "Unexpected key " ++ quote key ++ " in " ++ kind.keyword ++ " " ++ quote name
  | .noData kind name => "The " ++ kind.keyword ++ " " ++ quote name ++ " has no 'data'"
  | .labelsNotList enum => "The enum " ++ quote enum ++ " needs a list of labels"
  | .labelNotString enum => "Labels of the enum " ++ quote enum ++ " must be strings"
  | .optionalMember member union =>
    "Union member " ++ quote member ++ " of " ++ quote union ++ " cannot be optional"
  | .implicitNotString option =>
    "The implicit key of option " ++ quote option ++ " must be a string"
  | .fieldsNotMap owner found =>
    "Expected the fields of " ++ quote owner ++ " but found a " ++ found
  | .arrayItems field owner =>
    "Array type of " ++ quote field ++ " in " ++ quote owner ++
      " must name exactly one element type"

/-- A fault and the line of the entry. -/
structure BuildError where
  line : Nat
  fault : BuildFault
  deriving DecidableEq

/-! ### Heads -/

/-- What an entry declares. -/
structure Head where
  kind : Kind
  name : String

/-- The head of an entry: its first key and that key's value. -/
def head (value : Value) : Except BuildFault Head :=
  match value with
  | .map [] => .error .emptyEntry
  | .map ((word, name) :: _) =>
    match Kind.ofKeyword? word with
    | none => .error (.unknownKind word)
    | some kind =>
      match name with
      | .string name => .ok ⟨kind, name⟩
      | _ => .error (.nameNotString kind)
  | value => .error (.notAMap value.kindName)

/-- The enum that a head announces: itself, or the one of a union's members. -/
def Head.enumName? (head : Head) : Option String :=
  match head.kind with
  | .enum => some head.name
  | .union => some (Naming.kindName head.name)
  | _ => none

/-- The enums that some heads announce. -/
def enumNames (heads : List Head) : List String := heads.filterMap Head.enumName?

/-! ### Types and fields -/

/-- The type that a name stands for, where the given names are enums. -/
def namedType (enums : List String) (name : String) : TypeRef :=
  match Scalar.ofKeyword? name with
  | some scalar => .scalar scalar
  | none => if enums.contains name then .enum name else .named name

/-- The name of a field without the mark of optional ones, and whether it has the mark. -/
def fieldName (key : String) : String × Bool :=
  match key.toList with
  | '*' :: rest => (String.ofList rest, true)
  | _ => (key, false)

mutual

/-- The type written in the position `field` of `owner`. Fields in place get a name made from the
owner and the position. -/
def typeRef (enums : List String) (owner field : String) : Value → Except BuildFault TypeRef
  | .string name => .ok (namedType enums name)
  | .list [item] => do return .array (← typeRef enums owner field item)
  | .list _ => .error (.arrayItems field owner)
  | .map members => do
    let name := owner ++ Naming.pascalCase field
    return .anonymous name (← fieldsOf enums name members)

/-- The fields that the members of a map declare for `owner`. -/
def fieldsOf (enums : List String) (owner : String) :
    List (String × Value) → Except BuildFault (List Field)
  | [] => .ok []
  | (key, value) :: rest => do
    let (name, optional) := fieldName key
    let type ← typeRef enums owner name value
    return ⟨name, type, optional⟩ :: (← fieldsOf enums owner rest)

end

/-- The fields that a value declares for `owner`. -/
def fields (enums : List String) (owner : String) : Value → Except BuildFault (List Field)
  | .map members => fieldsOf enums owner members
  | value => .error (.fieldsNotMap owner value.kindName)

/-! ### Definitions -/

/-- The keys that an entry may have after its first. -/
def allowedKeys : Kind → List String
  | .command => ["data", "returns"]
  | .option => ["data", "implicit"]
  | _ => ["data"]

/-- The value of a key that an entry of the kind must have. -/
def requiredData (head : Head) (value : Value) : Except BuildFault Value :=
  match value.get? "data" with
  | some data => .ok data
  | none => .error (.noData head.kind head.name)

/-- The labels of an enum. -/
def labels (enum : String) (data : Value) : Except BuildFault (List String) :=
  match data with
  | .list items => items.mapM fun item =>
    match item with
    | .string label => .ok label
    | _ => .error (.labelNotString enum)
  | _ => .error (.labelsNotList enum)

/-- The members of a union, none of which is optional. -/
def members (enums : List String) (union owner : String) (data : Value) :
    Except BuildFault (List Field) := do
  let members ← fields enums owner data
  match members.find? (·.optional) with
  | some member => .error (.optionalMember member.name union)
  | none => return members

/-- The parameters of a command: none, free-form ones written `**`, or fields. -/
def params (enums : List String) (owner : String) : Option Value → Except BuildFault Params
  | none => .ok (.fields [])
  | some (.string "**") => .ok .freeForm
  | some data => do return .fields (← fields enums owner data)

/-- The type of an option. The type `none` says that the option takes no argument. -/
def optionType (enums : List String) (owner : String) :
    Option Value → Except BuildFault (Option TypeRef)
  | none => .ok none
  | some data => do
    let type ← typeRef enums owner "data" data
    return if type.isNone then none else some type

/-- The implicit key of an option. -/
def implicitKey (option : String) : Option Value → Except BuildFault (Option String)
  | none => .ok none
  | some (.string key) => .ok (some key)
  | some _ => .error (.implicitNotString option)

/-- What an entry with the given head declares, each with its name. A union declares its enum
first. -/
def bodies (enums : List String) (head : Head) (value : Value) :
    Except BuildFault (List (String × Body)) := do
  let name := head.name
  let owner := Naming.typeName name
  match head.kind with
  | .struct => return [(name, .struct (← fields enums owner (← requiredData head value)))]
  | .enum => return [(name, .enum (← labels name (← requiredData head value)) none)]
  | .union =>
    let members ← members enums name owner (← requiredData head value)
    return [(Naming.kindName name, .enum (members.map (·.name)) (some name)),
      (name, .union members)]
  | .handle => return [(name, .handle (← typeRef enums owner "data" (← requiredData head value)))]
  | .event =>
    match value.get? "data" with
    | some data => return [(name, .event (← fields enums owner data))]
    | none => return [(name, .event [])]
  | .command =>
    let params ← params enums owner (value.get? "data")
    let returns ← match value.get? "returns" with
      | some returns => typeRef enums owner "returns" returns
      | none => pure (.scalar .none)
    return [(name, .command params returns)]
  | .option =>
    let type ← optionType enums owner (value.get? "data")
    return [(name, .option type (← implicitKey name (value.get? "implicit")))]

/-- The keys of an entry after its first. -/
def laterKeys : Value → List String
  | .map members => (members.drop 1).map (·.1)
  | _ => []

/-- The definitions of one entry, where the given names are enums. -/
def entryDefinitions (enums : List String) (entry : Parsed) : Except BuildFault (List Definition) := do
  let head ← head entry.value
  match (laterKeys entry.value).find? (!(allowedKeys head.kind).contains ·) with
  | some key => .error (.unexpectedKey key head.kind head.name)
  | none => return (← bodies enums head entry.value).map fun (name, body) => ⟨name, entry.line, body⟩

/-! ### Building -/

/-- A result for one entry, with its line added to a fault. -/
def atLine (line : Nat) (result : Except BuildFault α) : Except BuildError α :=
  result.mapError (⟨line, ·⟩)

/-- The schema of a list of entries. -/
def build (entries : List Parsed) : Except BuildError Schema := do
  let heads ← entries.mapM fun entry => atLine entry.line (head entry.value)
  let definitions ← entries.mapM fun entry =>
    atLine entry.line (entryDefinitions (enumNames heads) entry)
  return ⟨definitions.flatten⟩

end RpcSchema.Schema
