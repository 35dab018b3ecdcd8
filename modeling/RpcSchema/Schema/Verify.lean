import RpcSchema.Schema.GeneratedNames
import RpcSchema.Schema.Readable
import RpcSchema.Schema.Recursion
import RpcSchema.Text.Quote

/-!
# Verification of schemas

The rules that a schema must keep so that the code generated from it compiles and its options can
be read. The checks run in a fixed order and the first one that fails is reported: names as
written, names that generated code would have, then each definition in turn, then recursion.

## Main definitions

* `VerifyFault` — a rule that a schema breaks
* `checkNames`, `checkGeneratedNames` — the rules on names
* `checkType`, `checkFields` — the rules on types in positions
* `checkDefinition`, `checkOption` — the rules on one definition
* `Schema.verify` — all rules
-/

namespace RpcSchema.Schema

open RpcSchema.Text
open RpcSchema.Naming

/-! ### Faults -/

/-- A rule that a schema breaks. -/
inductive VerifyFault
  | invalidName (kind : Kind) (name : String)
  | definedTwice (space name : String)
  | reservedType (name : String)
  | shadowsPrelude (name : String)
  | generatedTwice (what name : String)
  | reservedCommand (name : String)
  | noLabels (enum : String)
  | invalidLabel (label enum : String)
  | labelTwice (label enum : String)
  | noMembers (union : String)
  | kindMember (union : String)
  | reservedEventField (field event : String)
  | reservedParameter (parameter command : String)
  | invalidField (field owner : String)
  | fieldTwice (field owner : String)
  | noneField (field owner : String)
  | undefinedType (type field owner : String)
  | eventField (event field owner : String)
  | implicitWithoutArgument (option : String)
  | unreadable (option : String) (what : Unreadable)
  | unknownImplicit (key option : String)
  | recursion (name : String)
  deriving DecidableEq

/-- The wording of a broken rule. -/
def VerifyFault.message : VerifyFault → String
  | .invalidName kind name => "Invalid " ++ kind.keyword ++ " name " ++ quote name
  | .definedTwice space name => "The " ++ space ++ " " ++ quote name ++ " is defined twice"
  | .reservedType name => "The type name " ++ quote name ++ " is reserved"
  | .shadowsPrelude name => "The generated type name " ++ quote name ++ " shadows a prelude type"
  | .generatedTwice what name =>
    "The generated " ++ what ++ " " ++ quote name ++ " is used twice"
  | .reservedCommand name => "The command name " ++ quote name ++ " is reserved"
  | .noLabels enum => "The enum " ++ quote enum ++ " has no labels"
  | .invalidLabel label enum => "Invalid label " ++ quote label ++ " in enum " ++ quote enum
  | .labelTwice label enum =>
    "The label " ++ quote label ++ " of enum " ++ quote enum ++ " is defined twice"
  | .noMembers union => "The union " ++ quote union ++ " has no members"
  | .kindMember union => "The union " ++ quote union ++ " cannot have a member named 'kind'"
  | .reservedEventField field event =>
    "The field name " ++ quote field ++ " of event " ++ quote event ++ " is reserved"
  | .reservedParameter parameter command =>
    "The parameter name " ++ quote parameter ++ " of command " ++ quote command ++ " is reserved"
  | .invalidField field owner => "Invalid field name " ++ quote field ++ " in " ++ quote owner
  | .fieldTwice field owner =>
    "The field " ++ quote field ++ " is defined twice in " ++ quote owner
  | .noneField field owner =>
    "The type 'none' of field " ++ quote field ++ " in " ++ quote owner ++
      " is only allowed as a return type"
  | .undefinedType type field owner =>
    "The type " ++ quote type ++ " is not defined for field " ++ quote field ++ " in " ++
      quote owner
  | .eventField event field owner =>
    "The event " ++ quote event ++ " cannot be used as the type of field " ++ quote field ++
      " in " ++ quote owner
  | .implicitWithoutArgument option =>
    "The option " ++ quote option ++ " takes no argument but names an implicit key"
  | .unreadable option what =>
    "The option " ++ quote option ++ " cannot read " ++
      (match what.kind with
        | some kind => kind.keyword
        | none => "undefined type") ++ " " ++ quote what.name ++ " from key/value input"
  | .unknownImplicit key option =>
    "The implicit key " ++ quote key ++ " of option " ++ quote option ++
      " is not a field of its type"
  | .recursion name => "Recursive nesting of " ++ quote name ++ " is not allowed"

/-- The outcome of a check. -/
abbrev Check := Except VerifyFault Unit

/-- Fails with a fault if there is one. -/
def checkNone (fault? : Option VerifyFault) : Check :=
  match fault? with
  | some fault => .error fault
  | none => .ok ()

/-! ### Spelling -/

/-- The ASCII letters. -/
def isLetter (c : Char) : Bool := c.isAlpha

/-- The characters of names: ASCII letters and digits, the underscore and the hyphen. -/
def isNameChar (c : Char) : Bool := c.isAlphanum || c = '_' || c = '-'

/-- A text whose first character is of the given class and whose others are name characters. -/
def isSpelled (first : Char → Bool) (text : String) : Bool :=
  match text.toList with
  | [] => false
  | c :: rest => first c && rest.all isNameChar

/-- The spelling of definition names. -/
def isDefinitionName (name : String) : Bool := isSpelled isLetter name

/-- The spelling of field names. -/
def isFieldName (name : String) : Bool := isSpelled (fun c => isLetter c || c = '_') name

/-- The spelling of enum labels. -/
def isLabel (label : String) : Bool := isSpelled Char.isAlphanum label

/-! ### Names as written -/

/-- The word for the namespace of a kind. -/
def space (kind : Kind) : String := if kind.isType then "type" else kind.keyword

/-- The rule on one definition's name that the definitions before it have a say in: the name is
well spelled, new in its namespace and, for a type, not reserved. -/
def nameFault? (before : List Definition) (d : Definition) : Option VerifyFault :=
  if !isDefinitionName d.name then some (.invalidName d.kind d.name)
  else if before.any fun b => space b.kind == space d.kind && b.name == d.name then
    some (.definedTwice (space d.kind) d.name)
  else if d.isType && (reservedNames.contains d.name || reservedNames.contains (typeName d.name))
  then some (.reservedType d.name)
  else none

/-- The rules on the names of definitions, where `before` has been checked. -/
def checkNames (before : List Definition) : List Definition → Check
  | [] => .ok ()
  | d :: rest => do
    checkNone (nameFault? before d)
    checkNames (before ++ [d]) rest

/-! ### Names in generated code -/

/-- The first name of a list that an earlier place of the list holds too. -/
def firstRepeated? (before : List String) : List String → Option String
  | [] => none
  | name :: rest =>
    if before.contains name then some name else firstRepeated? (before ++ [name]) rest

/-- Generated names of one sort are distinct. -/
def checkDistinct (what : String) (names : List String) : Check :=
  checkNone ((firstRepeated? [] names).map (.generatedTwice what))

/-- The names of the types that code generated from the schema declares. -/
def typeNames (schema : Schema) : List String := schema.definitions.flatMap Definition.typeNames

/-- The rules on the names that generated code would have. -/
def checkGeneratedNames (schema : Schema) : Check := do
  checkNone ((schema.typeNames.find? preludeTypes.contains).map .shadowsPrelude)
  checkDistinct "type name" schema.typeNames
  let commands := schema.names .command
  checkNone ((commands.find? fun name => reservedCommands.contains (memberName name)).map
    .reservedCommand)
  checkDistinct "command method" (commands.map memberName)
  checkDistinct "command stub" (commands.map commandStub)
  checkDistinct "event handler" ((schema.names .event).map memberName)
  checkDistinct "event notifier" ((schema.names .event).map eventNotifier)
  checkDistinct "option method" ((schema.names .option).map memberName)
  checkDistinct "option stub" ((schema.names .option).map optionStub)

/-! ### Types in positions -/

/-- The rule on a name in a position: it is a type other than an event. -/
def checkNamed (schema : Schema) (field owner name : String) : Check :=
  match schema.lookup? name with
  | none => .error (.undefinedType name field owner)
  | some d => if d.kind = .event then .error (.eventField name field owner) else .ok ()

/-- The rules on a field's name: it is well spelled, and no field before it has its
identifier. -/
def checkFieldName (before : List String) (field owner : String) : Check :=
  if !isFieldName field then .error (.invalidField field owner)
  else if before.contains (memberName field) then .error (.fieldTwice field owner)
  else .ok ()

mutual

/-- The rules on a type in the position `field` of `owner`. -/
def checkType (schema : Schema) (field owner : String) : TypeRef → Check
  | .scalar .none => .error (.noneField field owner)
  | .scalar _ => .ok ()
  | .enum _ => .ok ()
  | .named name => checkNamed schema field owner name
  | .array item => checkType schema field owner item
  | .anonymous name fields => checkFields schema name [] fields

/-- The rules on the fields of `owner`, where the fields before have the given identifiers. -/
def checkFields (schema : Schema) (owner : String) (before : List String) :
    List (FieldOf TypeRef) → Check
  | [] => .ok ()
  | field :: rest => do
    checkFieldName before field.name owner
    checkType schema field.name owner field.type
    checkFields schema owner (before ++ [memberName field.name]) rest

end

/-! ### Definitions -/

/-- The rules on the labels of an enum: well spelled and with distinct variants. -/
def checkLabels (enum : String) (before : List String) : List String → Check
  | [] => .ok ()
  | label :: rest => do
    if !isLabel label then throw (.invalidLabel label enum)
    if before.contains (variantName label) then throw (.labelTwice label enum)
    checkLabels enum (before ++ [variantName label]) rest

/-- The fields that a type has by itself: those of a struct or those written in place. -/
def ownFields (schema : Schema) : TypeRef → List Field
  | .anonymous _ fields => fields
  | .named name =>
    match schema.lookup? name with
    | some ⟨_, _, .struct fields⟩ => fields
    | _ => []
  | _ => []

/-- The rules on an option: its type can be read from text, and its implicit key is a field. -/
def checkOption (schema : Schema) (name : String) (type : Option TypeRef)
    (implicit : Option String) : Check :=
  match type with
  | none => if implicit.isSome then .error (.implicitWithoutArgument name) else .ok ()
  | some type => do
    checkType schema "data" name type
    checkNone ((schema.firstUnreadable? [type] []).map (.unreadable name))
    checkNone (implicit.bind fun key =>
      if (schema.ownFields type).any (·.name == key) then none
      else some (.unknownImplicit key name))

/-- The rules on what a definition declares. -/
def checkDefinition (schema : Schema) (d : Definition) : Check :=
  match d.body with
  | .struct fields => checkFields schema d.name [] fields
  | .enum labels _ => do
    if labels.isEmpty then throw (.noLabels d.name)
    checkLabels d.name [] labels
  | .union members => do
    if members.isEmpty then throw (.noMembers d.name)
    if members.any (·.name == "kind") then throw (.kindMember d.name)
    checkFields schema d.name [] members
  | .handle payload => checkType schema "data" d.name payload
  | .event fields => do
    checkFields schema d.name [] fields
    checkNone ((fields.find? (reservedEventFields.contains ·.name)).map
      (.reservedEventField ·.name d.name))
  | .command params returns => do
    checkFields schema d.name [] params.toFields
    checkNone ((params.toFields.find? (reservedParameters.contains ·.name)).map
      (.reservedParameter ·.name d.name))
    if !returns.isNone && (schema.returnedEvent? returns).isNone then
      checkType schema "returns" d.name returns
  | .option type implicit => checkOption schema d.name type implicit

/-- All rules. -/
def verify (schema : Schema) : Check := do
  checkNames [] schema.definitions
  checkGeneratedNames schema
  schema.definitions.forM (checkDefinition schema)
  checkNone (schema.recursive?.map .recursion)

end RpcSchema.Schema
