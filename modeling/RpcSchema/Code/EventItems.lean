import RpcSchema.Code.ServerItems

/-!
# Both sides of events

The sending side has a function for each event that makes the payload from parameters and emits
it. The receiving side has a trait with a method for each event, which ignores the event unless it
is filled in, and a function that hands a received message to its method.

## Main definitions

* `notifyFunction` — the function that emits an event
* `dispatchFunction` — the function that hands on a received message
* `eventItems` — both sides
-/

namespace RpcSchema.Code

open RpcSchema.Naming

/-- The line that makes a field of the payload from its parameter. -/
def payloadField (field : Field) : String :=
  let member := memberName field.name
  if isCopied field.type then s!"{member},"
  else s!"{member}: {toOwned field.type field.optional member},"

/-- The step that makes the payload of an event. -/
def payloadStep (event : Event) : Step :=
  let head := s!"let event = {eventTypeName event.name} " ++ "\x7b"
  if event.fields.isEmpty then .line (head ++ "\x7d;")
  else .block head "\x7d;" (event.fields.map fun field => .line (payloadField field))

/-- The function that emits an event. -/
def notifyFunction (c : Context) (event : Event) : Function where
  doc := [s!"Emits `{event.name}` to every connected subscriber."]
  isPublic := true
  signature := ⟨eventNotifier event.name, "", none,
    ⟨"signal", s!"&{eventSignalName event.name}"⟩ :: fieldParams c event.fields, none⟩
  body := some [payloadStep event, .line "signal.emit(&event);"]

/-- The method for a received event, which ignores it. -/
def receiveMethod (event : Event) : Function where
  doc := []
  isPublic := false
  signature := ⟨memberName event.name, "", some "&self",
    [⟨"tag", "Option<i64>"⟩, ⟨"event", eventTypeName event.name⟩], none⟩
  body := some [.line "let _ = (tag, event);"]

/-- The arm for a received event. -/
def receiveArm (rt : String) (event : Event) : Step :=
  .braced s!"\"{event.name}\" =>"
    [ .line (s!"let event: {eventTypeName event.name} = " ++
        s!"{rt}::Unmarshal::unmarshal(&message.data)?;"),
      .line s!"handler.{memberName event.name}(message.tag, event);",
      .line "Ok(true)" ]

/-- The function that hands on a received message. -/
def dispatchFunction (c : Context) : Function :=
  let rt := c.runtime
  { doc := ["Hands a received event to its handler. `Ok(false)` for events this",
      "schema does not define."]
    isPublic := true
    signature := ⟨"dispatch_event", "<H: QmpEventHandlers + ?Sized>", none,
      [⟨if c.events.isEmpty then "_handler" else "handler", "&H"⟩,
        ⟨"message", s!"&{rt}::EventMessage"⟩],
      some s!"Result<bool, {rt}::RpcError>"⟩
    body := some [.braced "match message.event.as_str()" <|
      c.events.map (receiveArm rt) ++ [.line "_ => Ok(false),"]] }

/-- Both sides of the events of the schema. -/
def eventItems (c : Context) : List Item :=
  (c.events.map fun event => .function (notifyFunction c event)) ++
    [ .trait ["Client side reactions to events. Unhandled events are ignored."] "QmpEventHandlers"
        "" (c.events.map fun event => .method (receiveMethod event)),
      .function (dispatchFunction c) ]

end RpcSchema.Code
