import RpcSchema.Code.Item
import RpcSchema.Code.Rendering

/-!
# The serving side of commands

The trait that an implementation of the commands fills in, and the functions between it and the
dispatcher: one for each command that reads the arguments, calls the handler and writes the
result, a table of all commands, and a function that registers them.

## Main definitions

* `handlerMethod`, `serverTraitItems` — the trait
* `stubFunction` — the function of one command
* `serverItems` — the functions and the table
-/

namespace RpcSchema.Code

open RpcSchema.Naming

/-! ### The trait of handlers -/

/-- The parameters of the fields of a command or event. -/
def fieldParams (c : Context) (fields : List Field) : List Param :=
  fields.map fun field => ⟨memberName field.name, paramType c.schema field.type field.optional⟩

/-- The parameters of a handler that come from the arguments. -/
def argumentParams (c : Context) (command : Command) : List Param :=
  match command.params with
  | .freeForm => [⟨"args", s!"&{c.runtime}::Map"⟩]
  | .fields fields => fieldParams c fields

/-- The type that a handler returns. -/
def resultType (c : Context) (command : Command) : String := render c.schema .result command.returns

/-- The parameter for the caller's session, which stateful commands have. -/
def sessionParams (c : Context) (command : Command) : List Param :=
  if command.handling = .stateful then [⟨"session", s!"&mut {c.runtime}::Session"⟩] else []

/-- The parameter that takes the result of an asynchronous command. -/
def doneParams (c : Context) (command : Command) (type : String) : List Param :=
  if command.handling = .async then [⟨"done", s!"{c.runtime}::Completion<{type}>"⟩] else []

/-- The type of what a command returns at once; an asynchronous one returns nothing. -/
def outcomeType (c : Context) (command : Command) (type : String) : Option String :=
  if command.handling = .async then none else some s!"Result<{type}, {c.runtime}::RpcError>"

/-- The handler of a command. -/
def handlerMethod (c : Context) (command : Command) : Function :=
  let type := resultType c command
  { doc := [s!"`{command.name}`"]
    isPublic := false
    signature := ⟨memberName command.name, "", some "&self",
      sessionParams c command ++ argumentParams c command ++ doneParams c command type,
      outcomeType c command type⟩
    body := none }

/-- The trait of handlers. -/
def serverTraitItems (c : Context) : List Item :=
  [.trait
    ["Implementations of the commands of this schema.",
      "",
      "Synchronous handlers return their result. Asynchronous handlers report",
      "it through `done`, exactly once. Stateful handlers also receive the",
      "caller's session."]
    "QmpHandlers" ": Send + Sync + 'static"
    (c.commands.map fun command => .method (handlerMethod c command))]

/-! ### The function of one command -/

/-- The local that holds an argument. -/
def argumentLocal (field : Field) : String := "arg_" ++ snakeCase field.name

/-- The step that reads an argument. An asynchronous command reports a failure in its reply. -/
def argumentStep (c : Context) (isAsync : Bool) (field : Field) : Step :=
  let rt := c.runtime
  let type := fieldType c.schema field.type field.optional
  let head := s!"let {argumentLocal field}: {type} = "
  let read := s!"{rt}::{reader field}(args, \"{field.name}\")"
  if isAsync then
    .block (head ++ "match " ++ read ++ " \x7b") "\x7d;"
      [.line "Ok(value) => value,", .line "Err(err) => return reply(Err(err)),"]
  else .line (head ++ read ++ "?;")

/-- The expressions that hand the arguments to the handler. -/
def argumentPasses (command : Command) : List String :=
  match command.params with
  | .freeForm => ["args"]
  | .fields fields =>
    fields.map fun field => passOwned field.type field.optional (argumentLocal field)

/-- The name of the parameter for the arguments, marked if they are not looked at. -/
def argumentsName (command : Command) : String :=
  match command.params with
  | .fields [] => "_args"
  | _ => "args"

/-- The steps that call a handler and write what it returns. For an event they subscribe to its
signal and return the tag of the subscription. -/
def invokeSteps (c : Context) (command : Command) (invoke : String) : List Step :=
  let rt := c.runtime
  if (c.schema.returnedEvent? command.returns).isSome then
    [ .line s!"let signal = {invoke}?;", .line "let tag = session.subscribe(&signal);",
      .line s!"{rt}::Marshal::marshal(&tag)" ]
  else if command.returns.isNone then
    [.line s!"{invoke}?;", .line s!"Ok({rt}::Value::Object({rt}::Map::new()))"]
  else [.line s!"let ret = {invoke}?;", .line s!"{rt}::Marshal::marshal(&ret)"]

/-- The step that calls an asynchronous handler with a function that writes its result. -/
def invokeLaterStep (c : Context) (command : Command) : Step :=
  let rt := c.runtime
  let type := resultType c command
  let done := s!"Box::new(move |result: Result<{type}, {rt}::RpcError>| " ++ "\x7b"
  let passes := ", ".intercalate (argumentPasses command ++ [done])
  .block s!"handler.{memberName command.name}({passes}" "\x7d));"
    [.line s!"reply(result.and_then(|ret: {type}| {rt}::Marshal::marshal(&ret)));"]

/-- The function that runs a command on JSON arguments. -/
def stubFunction (c : Context) (command : Command) : Function :=
  let rt := c.runtime
  let isAsync : Bool := command.handling = .async
  let passes := (if command.handling = .stateful then ["session"] else []) ++ argumentPasses command
  let invoke := s!"handler.{memberName command.name}(" ++ ", ".intercalate passes ++ ")"
  let reads := command.params.toFields.map (argumentStep c isAsync)
  { doc := []
    isPublic := true
    signature := ⟨commandStub command.name, "<H: QmpHandlers + ?Sized>", none,
      [⟨"handler", "&H"⟩] ++ sessionParams c command ++
        [⟨argumentsName command, s!"&{rt}::Map"⟩] ++
        (if isAsync then [⟨"reply", s!"{rt}::Reply"⟩] else []),
      outcomeType c command s!"{rt}::Value"⟩
    body := some (reads ++
      if isAsync then [invokeLaterStep c command] else invokeSteps c command invoke) }

/-! ### All commands -/

/-- The line that registers a command. -/
def registration (c : Context) (command : Command) : String :=
  let rt := c.runtime
  let stub := commandStub command.name
  match command.handling with
  | .sync => s!"registry.register_sync(\"{command.name}\", move |args: &{rt}::Map| {stub}(&*h, args));"
  | .async =>
    s!"registry.register_async(\"{command.name}\", move |args: &{rt}::Map, reply: {rt}::Reply| " ++
      s!"{stub}(&*h, args, reply));"
  | .stateful =>
    s!"registry.register_stateful(\"{command.name}\", move |session: &mut {rt}::Session, " ++
      s!"args: &{rt}::Map| {stub}(&*h, session, args));"

/-- The line that makes one more reference to the handler. -/
def shareHandler : Step := .line "let h = std::sync::Arc::clone(&handler);"

/-- A parameter for the shared handler, marked if nothing is registered. -/
def sharedHandler (used : Bool) : Param :=
  ⟨if used then "handler" else "_handler", "std::sync::Arc<H>"⟩

/-- The function that registers all commands. -/
def registerFunction (c : Context) : Function where
  doc := ["Registers a dispatch stub for every command, all sharing `handler`."]
  isPublic := true
  signature := ⟨"register_commands", "<H: QmpHandlers>", none,
    [⟨"registry", s!"&mut {c.runtime}::CommandRegistry"⟩, sharedHandler (!c.commands.isEmpty)], none⟩
  body := some <| c.commands.flatMap fun command => [shareHandler, .line (registration c command)]

/-- The table of all commands and their classes. -/
def commandTable (c : Context) : Item :=
  let rt := c.runtime
  .table ["Every command and how its handler is invoked, in schema order."]
    s!"pub const COMMANDS: &[(&str, {rt}::CommandKind)] = &[" "];" <|
    c.commands.map fun command =>
      s!"(\"{command.name}\", {rt}::CommandKind::{command.handling.variant}),"

/-- The functions and the table of the serving side. -/
def serverItems (c : Context) : List Item :=
  (c.commands.map fun command => .function (stubFunction c command)) ++
    [commandTable c, .function (registerFunction c)]

end RpcSchema.Code
