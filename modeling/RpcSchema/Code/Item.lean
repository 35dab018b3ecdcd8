import RpcSchema.Code.Writer

/-!
# Items of generated code

A generated file is a list of items: types, traits, implementations, functions and constants. An
item is data, so the names that a file declares and the parameters of its functions can be read
off it, and its layout is given once.

## Main definitions

* `Param`, `Signature`, `Function` — functions and methods
* `Item` — an item
* `Item.typeNames`, `Item.functionName?` — what an item declares
* `Item.steps` — the layout of an item
-/

namespace RpcSchema.Code

/-! ### Functions -/

/-- A parameter and its type. -/
structure Param where
  name : String
  type : String

/-- The head of a function. -/
structure Signature where
  name : String
  /-- type parameters, in angle brackets if there are any -/
  generics : String
  /-- the receiver of a method -/
  receiver : Option String
  params : List Param
  result : Option String

/-- A function or method. One without a body is only declared. -/
structure Function where
  doc : List String
  isPublic : Bool
  signature : Signature
  body : Option (List Step)

/-- A parameter as code. -/
def Param.text (p : Param) : String := p.name ++ ": " ++ p.type

/-- The head of a function as code. -/
def Signature.text (s : Signature) : String :=
  "fn " ++ s.name ++ s.generics ++ "(" ++
    ", ".intercalate (s.receiver.toList ++ s.params.map Param.text) ++ ")" ++
    (match s.result with
      | some result => " -> " ++ result
      | none => "")

/-- Lines of documentation. -/
def docSteps (doc : List String) : List Step :=
  doc.map fun text => .line (if text = "" then "///" else "/// " ++ text)

/-- The layout of a function. -/
def Function.steps (f : Function) : List Step :=
  let head := (if f.isPublic then "pub " else "") ++ f.signature.text
  docSteps f.doc ++
    (match f.body with
      | some body => [.braced head body]
      | none => [.line (head ++ ";")])

/-! ### Items -/

/-- A member of a trait or an implementation: a method, or an associated constant or type. -/
inductive Member
  | method (function : Function)
  | line (text : String)

/-- A method without documentation. -/
def method (isPublic : Bool) (name receiver : String) (params : List Param)
    (result : Option String) (body : List Step) : Member :=
  .method ⟨[], isPublic, ⟨name, "", if receiver = "" then none else some receiver, params, result⟩,
    some body⟩

/-- An item. -/
inductive Item
  | struct (doc : List String) (derives : Option String) (name generics : String)
    (fields : List String)
  | enum (doc : List String) (derives : String) (name : String) (variants : List String)
  /-- names for existing types -/
  | aliases (definitions : List (String × String))
  /-- a constant on one line -/
  | constant (text : String)
  /-- a table of constants -/
  | table (doc : List String) (opener closer : String) (rows : List String)
  | trait (doc : List String) (name bounds : String) (members : List Member)
  | implementation (head : String) (members : List Member)
  | function (function : Function)

/-- The types and traits that an item declares. -/
def Item.typeNames : Item → List String
  | .struct _ _ name _ _ => [name]
  | .enum _ _ name _ => [name]
  | .aliases definitions => definitions.map (·.1)
  | .trait _ name _ _ => [name]
  | _ => []

/-- The function that an item declares. -/
def Item.functionName? : Item → Option String
  | .function f => some f.signature.name
  | _ => none

/-! ### Layout -/

/-- The layout of a member. -/
def Member.steps : Member → List Step
  | .method f => f.steps
  | .line text => [.line text]

/-- The layout of members, with a blank line between each two. -/
def membersSteps : List Member → List Step
  | [] => []
  | [member] => member.steps
  | member :: rest => member.steps ++ .blank :: membersSteps rest

/-- The line that derives traits for a type. -/
def deriveLine (traits : String) : Step := .line ("#[derive(" ++ traits ++ ")]")

/-- The layout of an item. -/
def Item.steps : Item → List Step
  | .struct doc derives name generics fields =>
    docSteps doc ++ (derives.map deriveLine).toList ++
      [.braced ("pub struct " ++ name ++ generics) (fields.map .line)]
  | .enum doc derives name variants =>
    docSteps doc ++ [deriveLine derives, .braced ("pub enum " ++ name) (variants.map .line)]
  | .aliases definitions =>
    definitions.map fun (name, type) => .line ("pub type " ++ name ++ " = " ++ type ++ ";")
  | .constant text => [.line text]
  | .table doc opener closer rows => docSteps doc ++ [.block opener closer (rows.map .line)]
  | .trait doc name bounds members =>
    docSteps doc ++ [.braced ("pub trait " ++ name ++ bounds) (membersSteps members)]
  | .implementation head members => [.braced ("impl" ++ head) (membersSteps members)]
  | .function f => f.steps

/-- The layout of a file: each item is followed by a blank line. -/
def itemsSteps (items : List Item) : List Step := items.flatMap fun item => item.steps ++ [.blank]

end RpcSchema.Code
