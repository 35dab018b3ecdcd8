import RpcSchema.Drawing.Commands
import RpcSchema.Naming

/-!
# A tour of the drawing service

A client's walk through the service, and what it prints: it subscribes, stores a triangle, asks
for one of its corners and for its description, lists the colors, opens and closes a file, waits
for a ping and looks at the events that reached it.

## Main definitions

* `Tour` — a walk that may fail
* `tour` — the walk, with the lines that it prints
* `Tour.output` — what it prints on a new service
-/

namespace RpcSchema.Drawing

/-- Steps of one client, which change the service and stop at a failure. -/
abbrev Tour := StateT (Desk Service) (Except RpcError)

namespace Tour

/-- The client's session. -/
def session : Nat := 0

/-- The error of a call that never gets its result. -/
def neverCompleted (call : Call) : RpcError :=
  .generic "GenericError" (call.command ++ " never completed")

/-- Makes a call. -/
def call (c : Call) : Tour c.Result := fun desk =>
  match c.request desk session with
  | (desk, some (.ok value)) => .ok (value, desk)
  | (_, some (.error error)) => .error error
  | (_, none) => .error (neverCompleted c)

/-- Takes the events that wait for the client, at the start of time. -/
def events : Tour (List EventMessage) := fun desk => do
  let messages ← Transport.events desk.state.hub session ⟨0, 0⟩
  return (messages, { desk with state := desk.state.drained session })

/-- A triangle with one labelled corner. -/
def triangle : Shape where
  name := "triangle"
  points := [⟨0, 0, none⟩, ⟨4, 0, some "corner"⟩, ⟨0, 3, none⟩]
  color := .green
  origin := some ⟨1, 1⟩

/-- The names of colors in brackets. -/
def colorNames (colors : List Color) : String :=
  "[" ++ ", ".intercalate (colors.map fun c => Naming.variantName (Labelled.label c)) ++ "]"

/-- The tag of an event, if it has one. -/
def tagText : Option Int64 → String
  | some tag => s!"Some({tag})"
  | none => "None"

/-- The line for an event. -/
def eventLine (message : EventMessage) : String :=
  "event " ++ message.event ++ " (tag " ++ tagText message.tag ++ "): " ++ message.data.compact

end Tour

open Tour in
/-- The walk, with the lines that it prints. -/
def tour : Tour (List String) := do
  call .negotiate
  let tag ← call .watchShapes
  call (.putShape triangle)
  let corner ← call (.getPoint "corner")
  let description ← call (.describe (.shape triangle))
  let colors ← call .listColors
  let file ← call (.openFile "/tmp/drawing")
  call (.closeFile file)
  let waited ← call (.ping (some 10))
  let messages ← events
  call (.putEvent tag)
  return [s!"subscribed to SHAPE_CHANGED with tag {tag}",
    s!"corner = ({corner.x}, {corner.y})",
    description,
    "colors = " ++ colorNames colors,
    s!"opened handle {file.number}",
    s!"guest-ping waited {waited} ms"] ++ messages.map eventLine

/-- What the walk prints on a new service with one session. -/
def Tour.output : Except RpcError String := do
  let (lines, _) ← tour ⟨Service.empty.openSession, []⟩
  return String.join (lines.map (· ++ "\n"))

end RpcSchema.Drawing
