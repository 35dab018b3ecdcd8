import RpcSchema.Code.ServerItems

/-!
# The calling side of commands

A client with one method for each command. A method writes its parameters as arguments, calls the
command over any transport and reads the result. A command that returns an event gives the caller
the tag of the subscription.

## Main definitions

* `clientMethod` — the method of one command
* `clientItems` — the client
-/

namespace RpcSchema.Code

open RpcSchema.Naming

/-- The type that a caller gets. -/
def clientResult (c : Context) (command : Command) : String :=
  if (c.schema.returnedEvent? command.returns).isSome then "i64" else resultType c command

/-- The step that sets an argument to an expression. An asynchronous call reports a failure to
`done`. -/
def setArgument (c : Context) (isAsync : Bool) (key value : String) : Step :=
  let call := s!"{c.runtime}::insert(&mut args, \"{key}\", {value})"
  if isAsync then .braced s!"if let Err(err) = {call}" [.line "return done(Err(err));"]
  else .line s!"{call}?;"

/-- The step that sets the argument of a field, if the field is present. -/
def fieldArgument (c : Context) (isAsync : Bool) (field : Field) : Step :=
  let param := memberName field.name
  if field.optional then
    .braced s!"if let Some(value) = {param}"
      [setArgument c isAsync field.name (borrowed field.type "value")]
  else setArgument c isAsync field.name (borrowed field.type param)

/-- The steps that make the arguments of a call; free-form ones are the parameter itself. -/
def argumentSteps (c : Context) (command : Command) : List Step :=
  match command.params with
  | .freeForm => []
  | .fields [] => [.line s!"let args = {c.runtime}::Map::new();"]
  | .fields fields =>
    .line s!"let mut args = {c.runtime}::Map::new();" ::
      fields.map (fieldArgument c (command.handling = .async))

/-- The steps that call a command. -/
def callSteps (c : Context) (command : Command) : List Step :=
  let rt := c.runtime
  if command.handling = .async then
    [.block (s!"self.transport.call_async(\"{command.name}\", args, " ++
        s!"Box::new(move |result: Result<{rt}::Value, {rt}::RpcError>| " ++ "\x7b") "\x7d));"
      [.line s!"done(result.and_then(|ret: {rt}::Value| {rt}::Unmarshal::unmarshal(&ret)));"]]
  else if command.returns.isNone then
    [.line s!"self.transport.call(\"{command.name}\", args)?;", .line "Ok(())"]
  else
    [ .line s!"let ret = self.transport.call(\"{command.name}\", args)?;",
      .line s!"{rt}::Unmarshal::unmarshal(&ret)" ]

/-- The parameters of a call that become its arguments. -/
def callParams (c : Context) (command : Command) : List Param :=
  match command.params with
  | .freeForm => [⟨"args", s!"{c.runtime}::Map"⟩]
  | .fields fields => fieldParams c fields

/-- The method that calls a command. -/
def clientMethod (c : Context) (command : Command) : Function :=
  let type := clientResult c command
  { doc := [s!"Executes `{command.name}`."]
    isPublic := true
    signature := ⟨memberName command.name, "", some "&self",
      callParams c command ++ doneParams c command type, outcomeType c command type⟩
    body := some (argumentSteps c command ++ callSteps c command) }

/-- The client: a transport, and one method for each command. -/
def clientItems (c : Context) : List Item :=
  let rt := c.runtime
  [ .struct ["Typed calls of the commands of this schema over any transport."] none "QmpClient"
      s!"<T: {rt}::Transport>" ["transport: T,"],
    .implementation s!"<T: {rt}::Transport> QmpClient<T>" <|
      [ method true "new" "" [⟨"transport", "T"⟩] (some "Self")
          [.line "QmpClient \x7b transport \x7d"],
        method true "transport" "&self" [] (some "&T") [.line "&self.transport"] ] ++
      c.commands.map fun command => .method (clientMethod c command) ]

end RpcSchema.Code
