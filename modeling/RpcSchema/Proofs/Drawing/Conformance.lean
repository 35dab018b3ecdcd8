import Mathlib.Data.List.Forall2
import RpcSchema.Drawing.Settings
import RpcSchema.Proofs.Drawing.Client
import RpcSchema.Proofs.Drawing.Compiled
import RpcSchema.Proofs.Options.Lists

/-!
# The service conforms to its schema

The forms of the figures, the commands, the calls and the options of the drawing service are given
as functions here, while for others they are generated from a schema. Both come to the same: what
the generator emits for a definition of the schema, line by line, is what the functions for it do.

Whatever has fields is generated field by field, in the order of the schema. A field that may be
absent is written if it is present and read as an optional one, every other field has to be there.
This is the same for the members of an object, the arguments of a command and the keys of an option,
so it is said once, for anything that fields can be read from.

## Main definitions

* `Reads`, `FromObject`, `FromPairs` — what reads some fields one after the other
* `PartFor` — what a field becomes in an object
* `Composed`, `Conveyed` — types with the forms that are generated for them
* `Serves`, `Asks`, `Registers` — commands, calls and options that are as generated

## Main results

* `composed`, `conveyed` — the types that cross the wire
* `commands_served`, `exists_asks` — both sides of the commands
* `reads_pairs`, `options_registered` — the options
-/

namespace RpcSchema.Drawing

open Json (Members)
open Options (ArgumentForm KeyValues OptionValue)
open RpcSchema.Wire

/-- The values of a type with their forms on the wire. -/
def WireType.form (type : WireType) : (α : Type) × Wire α := ⟨type.Value, type.wire⟩

/-! ### Fields -/

section

variable {σ α : Type} {m : Type → Type} [Monad m] [MonadLiftT (Except RpcError) m]

/-- What reads some fields one after the other, and then nothing more. The first field that cannot
be read ends it. -/
inductive Reads (reader : Field → {β : Type} → (σ → Except RpcError β) → Prop) :
    List Field → (σ → m α) → Prop
  | done (result : m α) : Reads reader [] fun _ => result
  | field {field : Field} {rest : List Field} {β : Type} {read : σ → Except RpcError β}
    {next : β → σ → m α} (hread : reader field read) (hnext : ∀ v, Reads reader rest (next v)) :
    Reads reader (field :: rest) fun source => do next (← read source) source

end

/-- How a field is read from an object. -/
inductive FromObject : Field → {β : Type} → (Members → Except RpcError β) → Prop
  | required (key : String) (type : WireType) :
    FromObject ⟨key, type.ref, false⟩ fun members => required type.Value members key
  | optional (key : String) (type : WireType) :
    FromObject ⟨key, type.ref, true⟩ fun members => optional type.Value members key

/-- What a field becomes in an object: only an optional one may have no value. -/
inductive PartFor : Field → ObjectPart → Prop
  | required (key : String) (type : WireType) (v : type.Value) :
    PartFor ⟨key, type.ref, false⟩ (.of key (some v))
  | optional (key : String) (type : WireType) (v : Option type.Value) :
    PartFor ⟨key, type.ref, true⟩ (.of key v)

/-- A type whose values are objects of some fields, written and read field by field. -/
structure Composed (type : WireType) (fields : List Field) : Prop where
  write (v : type.Value) : ∃ parts,
    toWire v = writeObject [] parts ∧ List.Forall₂ PartFor fields parts
  expect (form : Json) :
    type.read form = members form >>= fun members => type.read (.object members)
  read : Reads FromObject fields fun members => type.read (.object members)

/-- Records are written and read by the fields that the schema declares for them. -/
theorem composed {type : WireType} (h : type.Record) : Composed type type.fields := by
  have hobject (form : Json) :
      type.read form = members form >>= fun members => type.read (.object members) := by
    cases h <;> cases form <;> rfl
  cases h with
  | point =>
    refine ⟨fun p => ⟨_, Point.toWire_eq p, ?write⟩, hobject, ?read⟩
    case write =>
      exact .cons (.required "x" .int _) <| .cons (.required "y" .int _) <|
        .cons (.optional "label" .str _) .nil
    case read =>
      exact .field (.required "x" .int) fun x => .field (.required "y" .int) fun y =>
        .field (.optional "label" .str) fun label => .done (pure (Point.mk x y label))
  | origin =>
    refine ⟨fun o => ⟨_, Origin.toWire_eq o, ?write⟩, hobject, ?read⟩
    case write => exact .cons (.required "x" .int _) <| .cons (.required "y" .int _) .nil
    case read =>
      exact .field (.required "x" .int) fun x => .field (.required "y" .int) fun y =>
        .done (pure (Origin.mk x y))
  | shape =>
    refine ⟨fun s => ⟨_, Shape.toWire_eq s, ?write⟩, hobject, ?read⟩
    case write =>
      exact .cons (.required "name" .str _) <| .cons (.required "points" (.list .point) _) <|
        .cons (.required "color" .color _) <| .cons (.optional "origin" .origin _) .nil
    case read =>
      exact .field (.required "name" .str) fun name =>
        .field (.required "points" (.list .point)) fun points =>
        .field (.required "color" .color) fun color =>
        .field (.optional "origin" .origin) fun origin =>
        .done (pure (Shape.mk name points color origin))
  | flags =>
    refine ⟨fun f => ⟨_, Flags.toWire_eq f, ?write⟩, hobject, ?read⟩
    case write =>
      exact .cons (.optional "a" .bool _) <| .cons (.optional "b" .int _) <|
        .cons (.optional "c" .str _) <| .cons (.optional "d" .number _) .nil
    case read =>
      exact .field (.optional "a" .bool) fun a => .field (.optional "b" .int) fun b =>
        .field (.optional "c" .str) fun c => .field (.optional "d" .number) fun d =>
        .done (pure (Flags.mk a b c d))
  | shapeChanged =>
    refine ⟨fun e => ⟨_, ShapeChanged.toWire_eq e, ?write⟩, hobject, ?read⟩
    case write => exact .cons (.required "name" .str _) <| .cons (.required "color" .color _) .nil
    case read =>
      exact .field (.required "name" .str) fun name =>
        .field (.required "color" .color) fun color => .done (pure (ShapeChanged.mk name color))

/-! ### Definitions -/

/-- A type has the forms that are generated for a definition. -/
inductive Conveyed : Definition → WireType → Prop
  | enum {line : Nat} {union : Option String} {type : WireType} {α : Type} [Labelled α] [BEq α]
    (h : type.form = ⟨α, Labelled.wire⟩) :
    Conveyed ⟨Labelled.typeName α, line, .enum (Labelled.labels α) union⟩ type
  | struct {name : String} {line : Nat} {fields : List Field} {type : WireType}
    (h : Composed type fields) : Conveyed ⟨name, line, .struct fields⟩ type
  | event {name : String} {line : Nat} {fields : List Field} {type : WireType}
    (h : Composed type fields) : Conveyed ⟨name, line, .event fields⟩ type
  /-- the place of the active member comes first, and when it has been read there may be no other -/
  | union {name : String} {line : Nat} {fields : List Field} {type : WireType} {κ : Type}
    [Labelled κ] {member : κ → Members → Except RpcError type.Value}
    (hkind : Labelled.typeName κ = Naming.kindName name)
    (hlabels : Labelled.labels κ = fields.map (·.name))
    (hwrite : ∀ v : type.Value, ∃ place field part, fields[place]? = some field ∧
      PartFor field part ∧ toWire v = writeObject [] [.of "kind" (some (Int64.ofNat place)), part])
    (hmember : ∀ kind, ∃ field ∈ fields, field.name = Labelled.label kind ∧
      Reads FromObject [field] (member kind))
    (hread : ∀ form, type.read form = do
      let members ← members form
      let place ← required Int64 members "kind"
      let kind ← RpcError.atKey "kind" (Labelled.ofIndex place.toInt)
      let v ← member kind members
      ensureSingleMember members name (fields.map (·.name)) (Labelled.label kind)
      return v) :
    Conveyed ⟨name, line, .union fields⟩ type
  | handle {name : String} {line : Nat} {type payload : WireType}
    {take : type.Value → payload.Value} {make : payload.Value → type.Value}
    (hwrite : ∀ v, toWire v =
      (RpcError.atKey "data" (toWire (take v))).map (wrapHandle name))
    (hread : ∀ form, type.read form = do
      let form ← unwrapHandle name form
      return make (← RpcError.atKey "data" (payload.read form))) :
    Conveyed ⟨name, line, .handle payload.ref⟩ type

theorem conveyed_geometry (line : Nat) :
    Conveyed ⟨"Geometry", line, .union WireType.geometry.fields.tail⟩ .geometry := by
  refine @Conveyed.union _ _ _ .geometry GeometryKind _
    (fun kind members => Geometry.ofKind members kind) rfl rfl (fun g => ?write)
    (fun kind => ?member) fun form => ?read
  case write =>
    have hparts : toWire g = writeObject [] (Geometry.parts g) := Geometry.toWire_eq g
    cases g with
    | point p => exact ⟨0, _, _, rfl, .required "point" .point p, hparts⟩
    | shape s => exact ⟨1, _, _, rfl, .required "shape" .shape s, hparts⟩
    | radius r => exact ⟨2, _, _, rfl, .required "radius" .number r, hparts⟩
  case member =>
    cases kind with
    | point =>
      exact ⟨⟨"point", .named "Point", false⟩, by decide, rfl,
        .field (.required "point" .point) fun p => .done (pure (Geometry.point p))⟩
    | shape =>
      exact ⟨⟨"shape", .named "Shape", false⟩, by decide, rfl,
        .field (.required "shape" .shape) fun s => .done (pure (Geometry.shape s))⟩
    | radius =>
      exact ⟨⟨"radius", .scalar .number, false⟩, by decide, rfl,
        .field (.required "radius" .number) fun r => .done (pure (Geometry.radius r))⟩
  case read =>
    show (members form >>= _) = _
    refine congrArg _ (funext fun members => ?_)
    show (required Int64 members "kind" >>= _) = _
    refine congrArg _ (funext fun place => ?_)
    refine congrArg _ (funext fun kind => ?_)
    cases kind <;> rfl

theorem conveyed_fileHandle (line : Nat) :
    Conveyed ⟨"FileHandle", line, .handle WireType.int.ref⟩ .fileHandle :=
  @Conveyed.handle _ _ .fileHandle .int FileHandle.number FileHandle.mk (fun _ => rfl) fun _ => rfl

/-- Every definition of the schema that crosses the wire has a type with its forms. -/
theorem conveyed : ∀ d ∈ schema.definitions, d.name ∈ schema.reach.wire →
    ∃ type : WireType, (type.ref = .named d.name ∨ type.ref = .enum d.name) ∧ Conveyed d type := by
  have hothers : ∀ d ∈ commandDefinitions ++ optionDefinitions, d.name ∉ schema.reach.wire := by
    rw [reach_schema.1]
    decide
  have htypes : ∀ d ∈ typeDefinitions, d.name ∈ schema.reach.wire → ∃ type : WireType,
      (type.ref = .named d.name ∨ type.ref = .enum d.name) ∧ Conveyed d type := by
    rw [reach_schema.1]
    simp only [typeDefinitions, List.forall_mem_cons]
    refine ⟨?color, ?point, ?shape, ?flags, ?kind, ?geometry, ?handle, ?orphan, ?event,
      List.forall_mem_nil _⟩
    case color => exact fun _ => ⟨.color, .inr rfl, .enum (α := Color) rfl⟩
    case kind => exact fun _ => ⟨.geometryKind, .inr rfl, .enum (α := GeometryKind) rfl⟩
    case point => exact fun _ => ⟨.point, .inl rfl, .struct (composed .point)⟩
    case shape => exact fun _ => ⟨.shape, .inl rfl, .struct (composed .shape)⟩
    case flags => exact fun _ => ⟨.flags, .inl rfl, .struct (composed .flags)⟩
    case event => exact fun _ => ⟨.shapeChanged, .inl rfl, .event (composed .shapeChanged)⟩
    case geometry => exact fun _ => ⟨.geometry, .inl rfl, conveyed_geometry 9⟩
    case handle => exact fun _ => ⟨.fileHandle, .inl rfl, conveyed_fileHandle 11⟩
    case orphan => exact fun h => absurd h (by decide)
  intro d hd hname
  rw [schema, List.append_assoc] at hd
  obtain hd | hd := List.mem_append.mp hd
  · exact htypes d hd hname
  · exact absurd hname (hothers d hd)

/-- The fields in place have a type with their forms as well. -/
theorem composed_aggregates : ∀ a ∈ schema.aggregates, ∃ type : WireType,
    type.ref = .anonymous a.name a.fields ∧ Composed type a.fields := by
  have hfields : schema.aggregates = [⟨"ShapeOrigin", WireType.origin.fields⟩] := rfl
  rw [hfields, List.forall_mem_singleton]
  exact ⟨.origin, rfl, composed .origin⟩

/-! ### Commands -/

/-- What works on the arguments of a command: it reads the parameters first, or takes anything. -/
inductive Takes {α : Type} {m : Type → Type} [Monad m] [MonadLiftT (Except RpcError) m] :
    Params → (Members → m α) → Prop
  | fields {fields : List Field} {body : Members → m α} (h : Reads FromObject fields body) :
    Takes (.fields fields) body
  | freeForm (body : Members → m α) : Takes .freeForm body

/-- A command is handled as it is generated: its parameters are read, the service does the
operation, and the result is written as a value of the type that is returned. -/
inductive Serves : Code.Command → String × Handler Service → Prop
  | sync {name : String} {params : Params} {type : WireType}
    {operation : Members → Attempt Service type.Value} (h : Takes params operation) :
    Serves ⟨name, params, type.ref, .sync⟩
      (name, .sync fun arguments => (written (operation arguments)).on)
  | async {name : String} {params : Params} {type : WireType}
    {operation : Members → Except RpcError type.Value} (h : Takes params operation) :
    Serves ⟨name, params, type.ref, .async⟩
      (name, .async fun _ arguments s => (s, .given (operation arguments >>= toWire)))
  | stateful {name : String} {params : Params} {type : WireType}
    {operation : Nat → Members → Attempt Service type.Value} (hevent : type ≠ .shapeChanged)
    (h : ∀ session, Takes params (operation session)) :
    Serves ⟨name, params, type.ref, .stateful⟩
      (name, .stateful fun session arguments => (written (operation session arguments)).on)
  /-- for an event the caller is subscribed to a channel, and its tag is returned -/
  | signal {name : String} {params : Params} {operation : Nat → Members → Attempt Service Nat}
    (h : ∀ session, Takes params (operation session)) :
    Serves ⟨name, params, WireType.shapeChanged.ref, .stateful⟩
      (name, .stateful fun session arguments =>
        (written do Service.subscribe session (← operation session arguments)).on)

/-- What works on one argument. -/
theorem takes_required {α : Type} (key : String) (type : WireType)
    (operation : type.Value → Attempt Service α) :
    Takes (.fields [⟨key, type.ref, false⟩]) fun arguments =>
      (do operation (← required type.Value arguments key) : Attempt Service α) :=
  .fields (.field (.required key type) fun v => .done (operation v))

/-- The commands of the schema are handled as they are generated. -/
theorem commands_served :
    List.Forall₂ Serves (Code.Context.of schema .default).commands commands := by
  rw [commands_schema, List.forall₂_map_left_iff, List.forall₂_same]
  simp only [commands, List.forall_mem_cons]
  refine ⟨?getPoint, ?putShape, ?queryFlags, ?describe, ?openFile, ?closeFile, ?listColors, ?echo,
    ?ping, ?negotiate, ?watchShapes, ?putEvent, List.forall_mem_nil _⟩
  case getPoint => exact @Serves.sync _ _ .point _ (takes_required "name" .str _)
  case putShape => exact @Serves.sync _ _ .none _ (takes_required "shape" .shape _)
  case queryFlags =>
    have hflags := @Serves.sync "query-flags" _ .flags _ (takes_required "flags" .flags pure)
    simp only [bind_pure] at hflags
    exact hflags
  case describe => exact @Serves.sync _ _ .str _ (takes_required "geometry" .geometry _)
  case openFile => exact @Serves.sync _ _ .fileHandle _ (takes_required "path" .str _)
  case closeFile => exact @Serves.sync _ _ .none _ (takes_required "file" .fileHandle _)
  case listColors => exact @Serves.sync _ _ (.list .color) _ (.fields (.done _))
  case echo => exact @Serves.sync _ _ .int _ (.freeForm _)
  case ping =>
    have hping (arguments : Members) : (do
        let delay ← optional Int64 arguments "delay"
        toWire (← Service.ping delay)) =
          (optional Int64 arguments "delay" >>= Service.ping) >>= toWire :=
      (bind_assoc _ _ _).symm
    simp only [hping]
    exact @Serves.async _ _ .int _ (.fields (.field (.optional "delay" .int) fun _ => .done _))
  case negotiate => exact @Serves.stateful _ _ .none _ nofun fun _ => .fields (.done _)
  case watchShapes => exact .signal fun _ => .fields (.done _)
  case putEvent => exact @Serves.stateful _ _ .none _ nofun fun _ => takes_required "tag" .int _

/-! ### Calls -/

/-- What writes the arguments of a command: part by part, or as they are given. -/
inductive Gives : Params → Except RpcError Members → Prop
  | fields {fields : List Field} {parts : List ObjectPart} (h : List.Forall₂ PartFor fields parts) :
    Gives (.fields fields) (writeParts [] parts)
  | freeForm (arguments : Members) : Gives .freeForm (.ok arguments)

/-- A call asks for a command as it is generated: it gives the parameters of the command, and reads
the result as a value of the type that is returned. -/
structure Asks (command : Code.Command) (call : Call) : Prop where
  name : call.command = command.name
  arguments : Gives command.params call.arguments
  /-- the caller gets the tag of an event -/
  result : ∃ type : WireType, command.returns = type.ref ∧
    (⟨call.Result, call.wire⟩ : (α : Type) × Wire α) =
      (match type with
        | .shapeChanged => WireType.int
        | type => type).form

theorem gives_required (key : String) (type : WireType) (v : type.Value) :
    Gives (.fields [⟨key, type.ref, false⟩]) (insert [] key v) := by
  have hwrite : insert [] key v = writeParts [] [.of key (some v)] := insertSome_eq [] key (some v)
  rw [hwrite]
  exact .fields (.cons (.required key type v) .nil)

theorem gives_optional (key : String) (type : WireType) (v : Option type.Value) :
    Gives (.fields [⟨key, type.ref, true⟩]) (insertSome [] key v) := by
  rw [insertSome_eq]
  exact .fields (.cons (.optional key type v) .nil)

/-- Every call asks for a command of the schema. -/
theorem exists_asks (call : Call) :
    ∃ command ∈ (Code.Context.of schema .default).commands, Asks command call := by
  obtain ⟨handler, hhandler⟩ : ∃ handler, (call.command, handler) ∈ commands := by
    cases call <;> exact ⟨_, KeyValues.mem_of_lookup rfl⟩
  rw [commands_schema]
  refine ⟨_, List.mem_map_of_mem hhandler, rfl, ?arguments, returns call.command, rfl, ?result⟩
  case arguments =>
    cases call with
    | getPoint name => exact gives_required "name" .str name
    | putShape shape => exact gives_required "shape" .shape shape
    | queryFlags flags => exact gives_required "flags" .flags flags
    | describe geometry => exact gives_required "geometry" .geometry geometry
    | openFile path => exact gives_required "path" .str path
    | closeFile file => exact gives_required "file" .fileHandle file
    | echo arguments => exact .freeForm arguments
    | ping delay => exact gives_optional "delay" .int delay
    | putEvent tag => exact gives_required "tag" .int tag
    | listColors | negotiate | watchShapes => exact .fields .nil
  case result => cases call <;> rfl

/-! ### Options -/

/-- How the types that option text can express are read from it. -/
def WireType.optionValue? : (type : WireType) → Option (OptionValue type.Value)
  | int => some (inferInstanceAs (OptionValue Int64))
  | bool => some (inferInstanceAs (OptionValue Bool))
  | number => some (inferInstanceAs (OptionValue Float))
  | str => some (inferInstanceAs (OptionValue String))
  | color => some (inferInstanceAs (OptionValue Color))
  | point => some (inferInstanceAs (OptionValue Point))
  | list item =>
    item.optionValue?.map fun (_ : OptionValue item.Value) =>
      (inferInstance : OptionValue (List item.Value))
  | _ => Option.none

/-- How a field is read from option text. -/
inductive FromPairs : Field → {β : Type} → (KeyValues → Except RpcError β) → Prop
  | required (key : String) {type : WireType} {read : OptionValue type.Value}
    (h : type.optionValue? = some read) :
    FromPairs ⟨key, type.ref, false⟩ fun kvs => OptionValue.required type.Value kvs key
  | optional (key : String) {type : WireType} {read : OptionValue type.Value}
    (h : type.optionValue? = some read) :
    FromPairs ⟨key, type.ref, true⟩ fun kvs => OptionValue.optional type.Value kvs key

/-- A point is the only struct among the options. -/
theorem reads_pairs : Reads FromPairs WireType.point.fields
    (OptionValue.ofPairs : KeyValues → Except RpcError Point) :=
  .field (@FromPairs.required "x" .int _ rfl) fun x =>
    .field (@FromPairs.required "y" .int _ rfl) fun y =>
    .field (@FromPairs.optional "label" .str _ rfl) fun label => .done (pure (Point.mk x y label))

/-- How the argument of an option is taken apart: a scalar or a label is one value. -/
def formOf (implicit : Option String) : TypeRef → ArgumentForm
  | .scalar _ | .enum _ => .scalar
  | _ => .pairs implicit

/-- An option does what is generated for it: it reads its argument, if it takes one, and sets
something to what it has read. -/
inductive Registers : Code.OptionEntry → String × Options.Entry Settings → Prop
  | bare {name : String} {change : Settings → Settings} :
    Registers ⟨name, none, none⟩ (name, .bare fun settings => (change settings, .ok ()))
  | withArgument {name : String} {implicit : Option String} {type : WireType}
    {read : OptionValue type.Value} (h : type.optionValue? = some read)
    {change : type.Value → Settings → Settings} :
    Registers ⟨name, some type.ref, implicit⟩
      (name, .withArgument (formOf implicit type.ref) (setting change))

/-- The options of the schema are registered as they are generated. -/
theorem options_registered :
    List.Forall₂ Registers (Code.Context.of schema .default).options options := by
  rw [options_schema]
  refine .cons .bare <| .cons ?name <| .cons ?origin <| .cons ?palette .nil
  case name => exact @Registers.withArgument _ _ .str _ rfl _
  case origin => exact @Registers.withArgument _ _ .point _ rfl _
  case palette => exact @Registers.withArgument _ _ (.list .color) _ rfl _

end RpcSchema.Drawing
