import RpcSchema.Decimal.Layout
import RpcSchema.Drawing.Wire
import RpcSchema.Rpc.Attempt
import RpcSchema.Rpc.Hub

/-!
# The drawing service

A service that stores shapes, opens files and tells its subscribers of every shape it stores.
Files are numbered from 3 on and a number is never used twice. Only a session that has negotiated
may subscribe.

An operation that can fail and has something to change is an `Attempt`: it changes the state step by
step, and a failure leaves the state as it is then.

## Main definitions

* `Service` — the state of the service and its sessions
* `Service.putShape`, `openFile`, `closeFile`, … — its operations
-/

namespace RpcSchema.Drawing

/-- The state of the service. -/
structure Service where
  /-- the stored shapes, oldest first -/
  shapes : List Shape
  /-- how many files were ever opened -/
  opened : Nat
  /-- the numbers of the open files, in increasing order -/
  openFiles : List Nat
  /-- the sessions, and the one channel that tells of shapes -/
  hub : Hub

/-- The channel that tells of stored shapes. -/
def shapeChannel : Nat := 0

/-- The number of the first file. -/
def firstFile : Nat := 3

/-- The handle of a file's number. -/
def fileHandle (number : Nat) : FileHandle := ⟨.ofNat number⟩

/-- A geometry's radius is written positionally, and a whole one without a point. -/
def radiusLayout : Decimal.Layout := ⟨fun _ => true, false⟩

/-- The text of a radius. -/
def radiusText (radius : Float) : String :=
  match Decimal.ofFloat? .up radius with
  | some d => d.write radiusLayout
  | none => if radius.isNaN then "NaN" else if radius < 0 then "-inf" else "inf"

/-- A geometry in words. -/
def Geometry.describe : Geometry → String
  | .point p => s!"point ({p.x}, {p.y})"
  | .shape s =>
    Labelled.label s.color ++ " shape '" ++ s.name ++ "' with " ++ toString s.points.length ++
      " points"
  | .radius r => "circle of radius " ++ radiusText r

namespace Service

/-- A service without sessions that has done nothing yet. -/
def empty : Service := ⟨[], 0, [], .ofEvents [ShapeChanged.event]⟩

/-- The service with one more session. -/
def openSession (s : Service) : Service := { s with hub := s.hub.open Session.defaultLimit }

/-- The service without a session. -/
def closeSession (s : Service) (session : Nat) : Service :=
  { s with hub := s.hub.close session }

/-- The service after a session took the events that waited for it. -/
def drained (s : Service) (session : Nat) : Service :=
  { s with hub := s.hub.drained session }

/-! ### Shapes -/

/-- Tells the subscribers of a shape. -/
def notify (s : Service) (change : ShapeChanged) : Service :=
  { s with hub := s.hub.emit shapeChannel (Wire.toWire change) }

/-- The point with a label: the origin, or the first one of the stored shapes. -/
def point (s : Service) (name : String) : Except RpcError Point :=
  if name = "origin" then .ok ⟨0, 0, some "origin"⟩
  else
    match (s.shapes.flatMap (·.points)).find? (·.label == some name) with
    | some p => .ok p
    | none => .error (.generic "GenericError" ("No point labelled '" ++ name ++ "'"))

/-- Stores a shape, which must have a point, and tells the subscribers of it. -/
def putShape (shape : Shape) : Attempt Service Unit := do
  if shape.points.isEmpty then throw (.invalidValue "points" "at least one point")
  modify fun s => { s with shapes := s.shapes ++ [shape] }
  modify (·.notify ⟨shape.name, shape.color⟩)

/-! ### Files -/

/-- Opens a file; its path must not be empty. -/
def openFile (path : String) : Attempt Service FileHandle := do
  if path.isEmpty then throw (.invalidValue "path" "a non-empty path")
  let number := firstFile + (← get).opened
  modify fun s => { s with opened := s.opened + 1 }
  modify fun s => { s with openFiles := s.openFiles ++ [number] }
  return fileHandle number

/-- Closes a file, which must be open. -/
def closeFile (file : FileHandle) : Attempt Service Unit := do
  let closed := (← get).openFiles.any (fileHandle · == file)
  modify fun s => { s with openFiles := s.openFiles.filter (fileHandle · != file) }
  unless closed do throw (.invalidValue "file" "an open file handle")

/-! ### Sessions -/

/-- The number of arguments. -/
def count (arguments : Json.Members) : Int64 := .ofNat arguments.length

/-- The delay that a ping waits, which must not be negative. -/
def ping (delay : Option Int64) : Except RpcError Int64 :=
  let delay := delay.getD 0
  if delay < 0 then .error (.invalidValue "delay" "a non-negative delay") else .ok delay

/-- Notes that a session has negotiated. -/
def negotiate (s : Service) (session : Nat) : Service :=
  { s with hub := s.hub.setNegotiated session true }

/-- The error of a session that has not negotiated. -/
def notNegotiated : RpcError :=
  .generic "CommandNotFound" "Expecting capabilities negotiation with 'qmp_capabilities'"

/-- The channel that tells of stored shapes, for a session that has negotiated. -/
def watchShapes (session : Nat) : Attempt Service Nat := do
  unless (← get).hub.isNegotiated session do throw notNegotiated
  return shapeChannel

/-- Subscribes a session to a channel and gives the tag. -/
def subscribe (session channel : Nat) : Attempt Service Int64 := do
  let (hub, tag) := (← get).hub.subscribe session channel
  modify fun s => { s with hub }
  return .ofNat tag

/-- Ends the subscription of a tag. -/
def putEvent (session : Nat) (tag : Int64) : Attempt Service Unit := do
  let (hub, outcome) := (← get).hub.unsubscribe session tag
  modify fun s => { s with hub }
  outcome

end Service

end RpcSchema.Drawing
