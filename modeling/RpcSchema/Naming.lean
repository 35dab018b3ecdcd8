import RpcSchema.Text.Case
import RpcSchema.Text.Split

/-!
# Names in generated code

Schema names are free in case and use hyphens; generated code has conventions and keywords. Each
kind of schema name has one derivation here: types and variants are written in Pascal case,
members in snake case, and a name that meets a keyword gets an underscore.

## Main definitions

* `Naming.pascalCase`, `Naming.snakeCase` — the two conventions
* `Naming.keywords`, `Naming.escapeKeyword` — names the target language keeps for itself
* `Naming.typeName`, `memberName`, `presenceName`, `variantName`, `eventTypeName`, `kindName` —
  the derived names
-/

namespace RpcSchema.Naming

open RpcSchema.Text

/-! ### Pascal case -/

/-- The characters that separate words. -/
def isSeparator (c : Char) : Bool := c = '_' || c = '-'

/-- The words of a name. -/
def words (cs : List Char) : List (List Char) := (splitWhere isSeparator cs).filter (!·.isEmpty)

/-- A word with its first letter raised. A word without small letters is an acronym or shouted,
and keeps only its first letter large. -/
def capitalize : List Char → List Char
  | [] => []
  | c :: rest => upper c ++ (if toUpper (c :: rest) = c :: rest then toLower rest else rest)

/-- The Pascal case of a name: `get-point` becomes `GetPoint`, `SHAPE_CHANGED` becomes
`ShapeChanged`, and `blockInfo` becomes `BlockInfo`. -/
def pascalChars (cs : List Char) : List Char := (words cs).flatMap capitalize

/-- The Pascal case of a name. -/
def pascalCase (name : String) : String := String.ofList (pascalChars name.toList)

/-! ### Snake case -/

/-- Whether a capital between `before` and `after` starts a word. Capitals in a row stay
together, except that the last one before a small letter starts the next word. -/
def startsWord (before : Option Char) (after : List Char) : Bool :=
  match before with
  | none => false
  | some p => p != '_' && (!isUpper p || (after.head?.map isLower).getD false)

/-- The snake case of the rest of a name, after the character `before`. -/
def snakeAfter (before : Option Char) : List Char → List Char
  | [] => []
  | c :: rest =>
    (if isUpper c then (if startsWord before rest then ['_'] else []) ++ lower c else [c]) ++
      snakeAfter (some c) rest

/-- The snake case of a name: `get-point` becomes `get_point` and `sessionID` becomes
`session_id`. -/
def snakeChars (cs : List Char) : List Char :=
  snakeAfter none (cs.map fun c => if c = '-' then '_' else c)

/-- The snake case of a name. -/
def snakeCase (name : String) : String := String.ofList (snakeChars name.toList)

/-! ### Keywords -/

/-- The names that are escaped. -/
def keywords : List String :=
  ["as", "async", "await", "break", "const", "continue", "crate", "dyn", "else",
   "enum", "extern", "false", "fn", "for", "if", "impl",
   "in", "let", "loop", "match", "mod", "move", "mut",
   "pub", "ref", "return", "self", "Self", "static",
   "struct", "super", "trait", "true", "type", "unsafe",
   "use", "where", "while", "yield", "box", "try"]

/-- A name, with an underscore after it if it is a keyword. -/
def escapeKeyword (name : String) : String :=
  if keywords.contains name then name ++ "_" else name

/-! ### Derived names -/

/-- The type declared for a schema type. -/
def typeName (name : String) : String := escapeKeyword (pascalCase name)

/-- The identifier of a field, parameter, command or option. -/
def memberName (name : String) : String := escapeKeyword (snakeCase name)

/-- The accessor that tells whether an optional field is present. It needs no escape, because no
keyword starts like it. -/
def presenceName (name : String) : String := "has_" ++ snakeCase name

/-- Whether a name starts with an ASCII digit. -/
def startsWithDigit (name : String) : Bool := (name.toList.head?.map Char.isDigit).getD false

/-- The variant of an enum label. A label may start with a digit, a variant may not. -/
def variantName (label : String) : String :=
  let name := pascalCase label
  if startsWithDigit name then "V" ++ name else escapeKeyword name

/-- The payload type of an event. -/
def eventTypeName (name : String) : String := pascalCase name ++ "Event"

/-- The schema name of the enum that tells the members of a union apart. -/
def kindName (union : String) : String := union ++ "Kind"

end RpcSchema.Naming
