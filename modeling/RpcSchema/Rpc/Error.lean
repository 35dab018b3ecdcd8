import RpcSchema.Json.Basic

/-!
# Errors of remote calls

What goes wrong in a call, as both sides see it. An error has a class and an object of data; that
pair is what crosses the wire. The class of a command's own error is the command's choice, also if
it is a class that another error has, so an error is read back from its class and the data that
goes with it.

An error in a value is found before it is known which parameter the value is for. Until then it
names the parameter `<unknown>`, and the innermost key that it passes on its way out takes that
place.

## Main definitions

* `RpcError` — an error
* `RpcError.message` — its wording
* `RpcError.inField` — the error seen from the key of a value
* `RpcError.className`, `RpcError.data` — what crosses the wire
* `RpcError.ofWire` — the error of a class and data
-/

namespace RpcSchema

/-- An error of a remote call. -/
inductive RpcError
  | missingParameter (name : String)
  | invalidType (name expected : String)
  | invalidValue (name expected : String)
  | unionConstraint (name : String) (members : List String)
  | commandNotFound (name : String)
  | generic (className description : String)
  deriving Repr, DecidableEq

namespace RpcError

/-! ### Parameters -/

/-- The name of a parameter that is not known yet. -/
def unknownParameter : String := "<unknown>"

/-- A value of the wrong shape, for a parameter that is not known yet. -/
def wrongType (expected : String) : RpcError := .invalidType unknownParameter expected

/-- A value out of its domain, for a parameter that is not known yet. -/
def wrongValue (expected : String) : RpcError := .invalidValue unknownParameter expected

/-- The error seen from the key of the value, which names the parameter unless an inner key has
named it. -/
def inField (key : String) : RpcError → RpcError
  | .invalidType name expected =>
    .invalidType (if name = unknownParameter then key else name) expected
  | .invalidValue name expected =>
    .invalidValue (if name = unknownParameter then key else name) expected
  | error => error

/-- A result seen from the key of its value. -/
def atKey (key : String) (result : Except RpcError α) : Except RpcError α :=
  result.mapError (inField key)

/-! ### Wording -/

/-- The wording of an error. -/
def message : RpcError → String
  | .missingParameter name => "Parameter '" ++ name ++ "' is missing"
  | .invalidType name expected =>
    "Invalid parameter type for '" ++ name ++ "', expected: " ++ expected
  | .invalidValue name expected => "Parameter '" ++ name ++ "' expects " ++ expected
  | .unionConstraint name members =>
    "Union '" ++ name ++ "' requires exactly one member, got " ++ ", ".intercalate members
  | .commandNotFound name => "The command " ++ name ++ " has not been found"
  | .generic _ description => description

/-! ### The wire -/

/-- The class of an error. -/
def className : RpcError → String
  | .missingParameter _ => "MissingParameter"
  | .invalidType _ _ => "InvalidParameterType"
  | .invalidValue _ _ => "InvalidParameterValue"
  | .unionConstraint _ _ => "UnionConstraint"
  | .commandNotFound _ => "CommandNotFound"
  | .generic className _ => className

/-- What the error is about, as members of its data. -/
def details : RpcError → Json.Members
  | .missingParameter name => [("name", .string name)]
  | .invalidType name expected => [("name", .string name), ("expected", .string expected)]
  | .invalidValue name expected => [("name", .string name), ("expected", .string expected)]
  | .unionConstraint name members =>
    [("name", .string name), ("members", .array (members.map .string))]
  | .commandNotFound name => [("name", .string name)]
  | .generic _ _ => []

/-- The data of an error, which always ends with a description. -/
def data (error : RpcError) : Json.Members := error.details ++ [("desc", .string error.message)]

/-- The text of a member of some data. -/
def text? (data : Json.Members) (key : String) : Option String := (data.get? key).bind Json.string?

/-- The texts in a list that is a member of some data; other items are passed over. -/
def texts (data : Json.Members) (key : String) : List String :=
  (((data.get? key).bind Json.array?).getD []).filterMap Json.string?

/-- The error of a class and data. Data that lacks what the class needs makes it an error of that
class with a description only. -/
def ofWire (className : String) (data : Json.Members) : RpcError :=
  let other : RpcError := .generic className ((text? data "desc").getD "")
  match text? data "name", text? data "expected" with
  | none, _ => other
  | some name, expected =>
    if className = "MissingParameter" then .missingParameter name
    else if className = "UnionConstraint" then .unionConstraint name (texts data "members")
    else if className = "CommandNotFound" then .commandNotFound name
    else
      match expected with
      | none => other
      | some expected =>
        if className = "InvalidParameterType" then .invalidType name expected
        else if className = "InvalidParameterValue" then .invalidValue name expected
        else other

end RpcError

end RpcSchema
