import RpcSchema.Schema.Reach

/-!
# Conventions of generated code

What a user of the generator decides: how commands are classed by their names, where the runtime
library is found, and how large a type may be.

A command is handled in one of three ways. A stateful one works on the caller's session; every
command that returns an event is stateful, because the subscription lives there. An asynchronous
one reports its result later, and a synchronous one returns it.

## Main definitions

* `CommandClass`, `Conventions.classify` — the classes, and the class of a command
* `Config` — all decisions
* `Context` — a schema with the decisions for it
-/

namespace RpcSchema.Code

/-- How a command is handled. -/
inductive CommandClass
  | sync
  | async
  | stateful
  deriving Repr, DecidableEq

/-- The word for a class in generated code. -/
def CommandClass.variant : CommandClass → String
  | .sync => "Sync"
  | .async => "Async"
  | .stateful => "Stateful"

/-- The word for a class in the catalogue. -/
def CommandClass.word : CommandClass → String
  | .sync => "sync"
  | .async => "async"
  | .stateful => "stateful"

/-- The names that decide the class of a command. -/
structure Conventions where
  /-- what the names of asynchronous commands start with; nothing if there are none -/
  asyncMark : String
  /-- the commands that work on the session -/
  stateful : List String

/-- The conventions without a user's decision. -/
def Conventions.default : Conventions :=
  ⟨"guest-", ["qmp_capabilities", "put-event", "getfd", "closefd"]⟩

/-- Whether a name starts with a text. -/
def startsWith (name start : String) : Bool := start.toList.isPrefixOf name.toList

/-- The class of a command. -/
def Conventions.classify (c : Conventions) (schema : Schema) (command : String)
    (returns : TypeRef) : CommandClass :=
  if c.stateful.contains command || (schema.returnedEvent? returns).isSome then .stateful
  else if c.asyncMark != "" && startsWith command c.asyncMark then .async
  else .sync

/-- The decisions of a user. -/
structure Config where
  /-- the path of the runtime library -/
  runtime : String
  /-- the most bytes that a value of a generated type may take -/
  maxTypeSize : Nat
  conventions : Conventions

/-- The decisions without a user. -/
def Config.default : Config := ⟨"brine_qapi", 512, .default⟩

/-- A schema with the decisions for it and the types that need conversions. -/
structure Context where
  schema : Schema
  config : Config
  reach : Reach

/-- The context of a schema. -/
def Context.of (schema : Schema) (config : Config) : Context := ⟨schema, config, schema.reach⟩

/-- The path of the runtime library. -/
def Context.runtime (c : Context) : String := c.config.runtime

/-- A command as the generator sees it. -/
structure Command where
  name : String
  params : Params
  returns : TypeRef
  handling : CommandClass
  deriving DecidableEq

/-- The commands of the schema with their classes, in order. -/
def Context.commands (c : Context) : List Command :=
  c.schema.definitions.filterMap fun d =>
    match d.body with
    | .command params returns =>
      some ⟨d.name, params, returns, c.config.conventions.classify c.schema d.name returns⟩
    | _ => none

/-- An event as the generator sees it. -/
structure Event where
  name : String
  fields : List Field

/-- The events of the schema, in order. -/
def Context.events (c : Context) : List Event :=
  c.schema.definitions.filterMap fun d =>
    match d.body with
    | .event fields => some ⟨d.name, fields⟩
    | _ => none

/-- An option as the generator sees it. -/
structure OptionEntry where
  name : String
  type : Option TypeRef
  implicit : Option String
  deriving DecidableEq

/-- The options of the schema, in order. -/
def Context.options (c : Context) : List OptionEntry :=
  c.schema.definitions.filterMap fun d =>
    match d.body with
    | .option type implicit => some ⟨d.name, type, implicit⟩
    | _ => none

end RpcSchema.Code
