import RpcSchema.Drawing.Service
import RpcSchema.Rpc.Transport

/-!
# Commands of the drawing service

Each operation of the service as a command, in the order of the schema. A command reads its
arguments, does its operation and writes the result; the first of these that fails ends it.

A `Call` is the typed side of the same: an operation with its arguments. It can be done on the
service at once, or through a transport, where it becomes a command with written arguments and
its written result is read back.

## Main definitions

* `commands` — the commands
* `Call`, `Call.Result` — an operation with its arguments, and what it returns
* `Call.perform` — a call done on the service
* `Call.request` — a call through a transport
-/

namespace RpcSchema.Drawing

open Json (Members)
open RpcSchema.Wire

/-! ### Commands -/

/-- An operation that returns its result in written form. -/
def written [Wire α] (operation : Attempt Service α) : Attempt Service Json := do
  toWire (← operation)

/-- The commands, in the order of the schema. -/
def commands : Commands Service :=
  [("get-point", .sync fun arguments => (written do
      let name ← required String arguments "name"
      (← get).point name).on),
    ("put-shape", .sync fun arguments => (written do
      let shape ← required Shape arguments "shape"
      Service.putShape shape).on),
    ("query-flags", .sync fun arguments => (written do
      let flags ← required Flags arguments "flags"
      return flags).on),
    ("describe", .sync fun arguments => (written do
      let geometry ← required Geometry arguments "geometry"
      return geometry.describe).on),
    ("open-file", .sync fun arguments => (written do
      let path ← required String arguments "path"
      Service.openFile path).on),
    ("close-file", .sync fun arguments => (written do
      let file ← required FileHandle arguments "file"
      Service.closeFile file).on),
    ("list-colors", .sync fun _ => (written do return (Labelled.values : List Color)).on),
    ("echo", .sync fun arguments => (written do return Service.count arguments).on),
    ("guest-ping", .async fun _ arguments s => (s, .given do
      let delay ← optional Int64 arguments "delay"
      toWire (← Service.ping delay))),
    ("qmp_capabilities", .stateful fun session _ => (written do
      modify (Service.negotiate · session)).on),
    ("watch-shape", .stateful fun session _ => (written do
      Service.subscribe session (← Service.watchShapes session)).on),
    ("put-event", .stateful fun session arguments => (written do
      let tag ← required Int64 arguments "tag"
      Service.putEvent session tag).on)]

/-! ### Calls -/

/-- An operation with its arguments. -/
inductive Call
  | getPoint (name : String)
  | putShape (shape : Shape)
  | queryFlags (flags : Flags)
  | describe (geometry : Geometry)
  | openFile (path : String)
  | closeFile (file : FileHandle)
  | listColors
  | echo (arguments : Members)
  | ping (delay : Option Int64)
  | negotiate
  | watchShapes
  | putEvent (tag : Int64)

namespace Call

/-- What a call returns. -/
abbrev Result : Call → Type
  | .getPoint _ => Point
  | .queryFlags _ => Flags
  | .describe _ => String
  | .openFile _ => FileHandle
  | .listColors => List Color
  | .echo _ | .ping _ | .watchShapes => Int64
  | .putShape _ | .closeFile _ | .negotiate | .putEvent _ => Unit

/-- The command of a call. -/
def command : Call → String
  | .getPoint _ => "get-point"
  | .putShape _ => "put-shape"
  | .queryFlags _ => "query-flags"
  | .describe _ => "describe"
  | .openFile _ => "open-file"
  | .closeFile _ => "close-file"
  | .listColors => "list-colors"
  | .echo _ => "echo"
  | .ping _ => "guest-ping"
  | .negotiate => "qmp_capabilities"
  | .watchShapes => "watch-shape"
  | .putEvent _ => "put-event"

/-- The written arguments of a call. -/
def arguments : Call → Except RpcError Members
  | .getPoint name => insert [] "name" name
  | .putShape shape => insert [] "shape" shape
  | .queryFlags flags => insert [] "flags" flags
  | .describe geometry => insert [] "geometry" geometry
  | .openFile path => insert [] "path" path
  | .closeFile file => insert [] "file" file
  | .echo arguments => .ok arguments
  | .ping delay => insertSome [] "delay" delay
  | .putEvent tag => insert [] "tag" tag
  | .listColors | .negotiate | .watchShapes => .ok []

/-- How a written result is read. -/
def read : (call : Call) → Json → Except RpcError call.Result
  | .getPoint _, j | .queryFlags _, j | .describe _, j | .openFile _, j | .listColors, j
  | .echo _, j | .ping _, j | .watchShapes, j | .putShape _, j | .closeFile _, j
  | .negotiate, j | .putEvent _, j => ofWire j

/-- A call done on the service by a session. -/
def perform (session : Nat) : (call : Call) → Attempt Service call.Result
  | .getPoint name => do (← get).point name
  | .putShape shape => Service.putShape shape
  | .queryFlags flags => return flags
  | .describe geometry => return geometry.describe
  | .openFile path => Service.openFile path
  | .closeFile file => Service.closeFile file
  | .listColors => return Labelled.values
  | .echo arguments => return Service.count arguments
  | .ping delay => Service.ping delay
  | .negotiate => modify (Service.negotiate · session)
  | .watchShapes => do Service.subscribe session (← Service.watchShapes session)
  | .putEvent tag => Service.putEvent session tag

/-- A call through a transport. A call whose arguments cannot be written is not sent. -/
def request (desk : Desk Service) (session : Nat) (call : Call) :
    Desk Service × Option (Except RpcError call.Result) :=
  match call.arguments with
  | .error error => (desk, some (.error error))
  | .ok arguments =>
    let (desk, result) := Transport.call desk commands session call.command arguments
    (desk, result.map (· >>= call.read))

end Call

end RpcSchema.Drawing
