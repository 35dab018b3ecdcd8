import RpcSchema.Drawing.Definition
import RpcSchema.Proofs.Code.Conversions
import RpcSchema.Proofs.Drawing.Blame
import RpcSchema.Proofs.Schema.Nesting

/-!
# The compiled schema of the drawing service

The text of the schema is accepted, and it declares the types of the service with the members that
their objects have, and the commands with the parameters that they read. So its fields need not be
listed a second time: they are those of `WireType.declared` and `parameters`.

## Main definitions

* `WireType.ref`, `WireType.fields` — types and their members as a schema declares them
* `params`, `returns` — what a command takes and returns
* `schema` — the schema

## Main results

* `compile_schemaText` — the text has this schema
* `reach_schema` — the types that cross the wire or come from option text
* `wireItems_schema`, `readItems_schema` — the conversions that are generated for them
* `commands_schema`, `options_schema` — the commands and options as the generator sees them
-/

namespace RpcSchema.Drawing

/-! ### Types and members -/

namespace WireType

/-- A type as a schema writes it. -/
def ref : WireType → TypeRef
  | int => .scalar .int
  | bool => .scalar .bool
  | number => .scalar .number
  | str => .scalar .str
  | none => .scalar .none
  | color => .enum (Labelled.typeName Color)
  | point => .named "Point"
  | origin => .anonymous "ShapeOrigin" [⟨"x", .scalar .int, false⟩, ⟨"y", .scalar .int, false⟩]
  | shape => .named "Shape"
  | flags => .named "Flags"
  | geometryKind => .enum (Labelled.typeName GeometryKind)
  | geometry => .named "Geometry"
  | fileHandle => .named "FileHandle"
  | shapeChanged => .named ShapeChanged.event
  | list item => .array item.ref

/-- Members as a schema declares them, some of which may be absent. -/
def fieldsOf (members : List (String × WireType)) (spared : List String) : List Field :=
  members.map fun (key, type) => ⟨key, type.ref, spared.contains key⟩

/-- The members of a type as a schema declares them. -/
def fields (type : WireType) : List Field := fieldsOf type.declared type.spared

/-- The fields in place are those of the type that stands for them. -/
theorem ref_origin : origin.ref = .anonymous "ShapeOrigin" origin.fields := rfl

end WireType

/-! ### Commands -/

/-- The parameters of a command. An echo takes any members, and a ping may come without a delay. -/
def params : String → Params
  | "echo" => .freeForm
  | command => .fields (WireType.fieldsOf (parameters command)
      (if command = "guest-ping" then ["delay"] else []))

/-- The type of what a command returns. -/
def returns : String → WireType
  | "get-point" => .point
  | "query-flags" => .flags
  | "describe" => .str
  | "open-file" => .fileHandle
  | "list-colors" => .list .color
  | "echo" | "guest-ping" => .int
  | "watch-shape" => .shapeChanged
  | _ => .none

/-! ### The schema -/

/-- The types of the schema. A union declares its members only, and its kind goes without saying. -/
def typeDefinitions : List Definition :=
  [⟨"Color", 1, .enum (Labelled.labels Color) none⟩,
    ⟨"Point", 2, .struct WireType.point.fields⟩,
    ⟨"Shape", 4, .struct WireType.shape.fields⟩,
    ⟨"Flags", 7, .struct WireType.flags.fields⟩,
    ⟨"GeometryKind", 9, .enum (Labelled.labels GeometryKind) (some "Geometry")⟩,
    ⟨"Geometry", 9, .union WireType.geometry.fields.tail⟩,
    ⟨"FileHandle", 11, .handle WireType.int.ref⟩,
    ⟨"Orphan", 12, .struct [⟨"note", WireType.str.ref, false⟩]⟩,
    ⟨ShapeChanged.event, 13, .event WireType.shapeChanged.fields⟩]

/-- The commands of the schema, one on each line. -/
def commandDefinitions : List Definition :=
  (commands.zipIdx 14).map fun ((name, _), line) =>
    ⟨name, line, .command (params name) (returns name).ref⟩

/-- The options of the schema. -/
def optionDefinitions : List Definition :=
  [⟨"verbose", 26, .option none none⟩,
    ⟨"name", 27, .option (some WireType.str.ref) none⟩,
    ⟨"origin", 28, .option (some WireType.point.ref) (some "x")⟩,
    ⟨"palette", 29, .option (some (WireType.list .color).ref) none⟩]

/-- The schema of the service. -/
def schema : Schema := ⟨typeDefinitions ++ commandDefinitions ++ optionDefinitions⟩

theorem ofText_schemaText : Schema.ofText schemaText = .ok schema := by
  rw [Schema.ofText, Schema.entries, Entry.parse, schemaText, String.toList_append,
    String.toList_intercalate, schemaLines]
  simp only [List.map_cons, List.map_nil]
  -- a literal is a list of characters before the kernel reads it
  repeat rw [String.toList_ofList]
  decide +kernel

/-! ### Verification -/

/-- The place of a name among the definitions. A type contains only types that come before it. -/
def place (name : String) : Nat := (schema.definitions.map (·.name)).idxOf name

theorem lookup?_point :
    schema.lookup? "Point" = some ⟨"Point", 2, .struct WireType.point.fields⟩ := rfl

open Schema in
/-- An option is accepted if its type can be read and has the implicit key. -/
theorem checkOption_schema {type : TypeRef} {name : String} {implicit : Option String}
    (hread : schema.firstUnreadable? [type] [] = none)
    (htype : checkType schema "data" name type = .ok ())
    (hkey : ∀ key ∈ implicit, (schema.ownFields type).any (·.name == key)) :
    checkOption schema name (some type) implicit = .ok () := by
  have hown : (implicit.bind fun key => if (schema.ownFields type).any (·.name == key) then none
      else some (VerifyFault.unknownImplicit key name)) = none := by
    cases implicit with
    | none => rfl
    | some key => exact if_pos (hkey key rfl)
  rw [checkOption, htype, hread, hown]
  rfl

open Schema in
theorem verify_schema : schema.verify = .ok () := by
  -- the kernel runs all checks but two searches: for nesting, and for what options cannot read
  obtain ⟨hnames, hgenerated, hothers, hbefore⟩ : checkNames [] schema.definitions = .ok () ∧
      checkGeneratedNames schema = .ok () ∧
      (∀ d ∈ typeDefinitions ++ commandDefinitions, checkDefinition schema d = .ok ()) ∧
      ∀ outer ∈ schema.definitions.map (·.name), ∀ names, schema.contained? outer = some names →
        ∀ inner ∈ names, place inner < place outer := by
    decide +kernel
  have hread : ∀ type ∈ [WireType.str, .point, .list .color],
      schema.firstUnreadable? [type.ref] [] = none := by
    simp [firstUnreadable?, readStep, lookup?_point, WireType.ref, WireType.fields,
      WireType.fieldsOf, WireType.declared, fieldTypes]
  simp only [List.forall_mem_cons] at hread
  obtain ⟨hname, horigin, hpalette, -⟩ := hread
  have hoptions : ∀ d ∈ optionDefinitions, checkDefinition schema d = .ok () := by
    have hkey : ∀ key ∈ some "x", (schema.ownFields WireType.point.ref).any (·.name == key) := by
      rintro _ ⟨⟩
      rfl
    simp only [optionDefinitions, List.forall_mem_cons]
    exact ⟨rfl, checkOption_schema hname rfl (by simp), checkOption_schema horigin rfl hkey,
      checkOption_schema hpalette rfl (by simp), List.forall_mem_nil _⟩
  have hwf : WellFounded schema.Nests := by
    refine Subrelation.wf ?_ (measure place).wf
    rintro inner outer ⟨names, hnames, hinner⟩
    exact hbefore outer (mem_of_contained? hnames) names hnames inner hinner
  exact verify_eq_ok.mpr ⟨hnames, hgenerated,
    forM_eq_ok.mpr (List.forall_mem_append.mpr ⟨hothers, hoptions⟩), recursive?_eq_none_iff.mpr hwf⟩

theorem compile_schemaText : Schema.compile schemaText = .ok schema := by
  rw [Schema.compile, ofText_schemaText, bind_of_eq_ok rfl, verify_schema]
  rfl

/-! ### Conversions -/

/-- The types that cross the wire, in the order they are met. -/
def wireNames : List String :=
  ["SHAPE_CHANGED", "Color", "Point", "Shape", "ShapeOrigin", "Flags", "Geometry", "GeometryKind",
    "FileHandle"]

/-- The types that come from option text. -/
def optionNames : List String := ["Point", "Color"]

theorem reach_schema : schema.reach.wire = wireNames ∧ schema.reach.options = optionNames := by
  have hwithin : schema.wireWithin 30 = some wireNames ∧ schema.collectWithin 30
      (schema.definitions.flatMap Definition.optionTypes) [] = some optionNames := by
    decide +kernel
  exact ⟨Schema.wire_of_within hwithin.1, Schema.collect_of_within hwithin.2⟩

open Code

/-- What crosses a boundary is made of types, so the other definitions need no conversions. -/
theorem definitionItems_schema (side : Side) (c : Context) :
    schema.definitions.flatMap (side.definitionItems c) =
      typeDefinitions.flatMap (side.definitionItems c) := by
  have hplain : ∀ d ∈ commandDefinitions ++ optionDefinitions,
      ¬d.isType ∧ d.aggregates.isEmpty := by
    decide
  have hnone : ∀ d ∈ commandDefinitions ++ optionDefinitions, side.definitionItems c d = [] := by
    intro d hd
    obtain ⟨htype, haggregates⟩ := hplain d hd
    have hown : side.ownItems c d = [] := by
      by_contra hne
      exact htype (isType_of_ownItems hne)
    rw [definitionItems_eq, List.isEmpty_iff.mp haggregates, hown, ite_self]
    rfl
  rw [schema, List.append_assoc, List.flatMap_append, List.flatMap_eq_nil_iff.mpr hnone,
    List.append_nil]

/-- The types that cross the wire are written and read member by member, as they are declared. -/
theorem wireItems_schema (config : Config) :
    let c := Context.of schema config
    let object (name : String) (type : WireType) := objectWireItems c name type.fields
    wireItems c = [enumWireItems c "Color", object (Naming.typeName "Point") .point,
      object "ShapeOrigin" .origin, object (Naming.typeName "Shape") .shape,
      object (Naming.typeName "Flags") .flags, enumWireItems c "GeometryKind",
      unionWireItems c "Geometry" WireType.geometry.fields.tail,
      handleWireItems c "FileHandle" WireType.int.ref,
      object (Naming.eventTypeName "SHAPE_CHANGED") .shapeChanged].flatten := by
  intro c object
  refine (definitionItems_schema .wire c).trans ?_
  simp only [typeDefinitions, List.flatMap_cons, List.flatMap_nil, definitionItems_eq, Side.names,
    show c.reach.wire = _ from reach_schema.1, wireNames]
  rfl

/-- Of the types, options take colors and points only. -/
theorem readItems_schema (config : Config) :
    let c := Context.of schema config
    schema.definitions.flatMap (definitionReadItems c) =
      [readItem c (Naming.typeName "Color") "kvs" [.line "kvs.value()?.parse()"],
        structReadItem c (Naming.typeName "Point") WireType.point.fields] := by
  intro c
  refine (definitionItems_schema .options c).trans ?_
  simp only [typeDefinitions, List.flatMap_cons, List.flatMap_nil, definitionItems_eq, Side.names,
    show c.reach.options = _ from reach_schema.2, optionNames]
  rfl

/-! ### Commands and options -/

/-- The class of the commands that a handler is for. -/
def handlingOf : Handler Service → CommandClass
  | .sync _ => .sync
  | .async _ => .async
  | .stateful _ => .stateful

/-- By their names and by what they return, the commands are classed as they are handled. -/
theorem commands_schema : (Context.of schema .default).commands =
    commands.map fun (name, handler) =>
      ⟨name, params name, (returns name).ref, handlingOf handler⟩ := by
  rfl

theorem options_schema : (Context.of schema .default).options =
    [⟨"verbose", none, none⟩, ⟨"name", some WireType.str.ref, none⟩,
      ⟨"origin", some WireType.point.ref, some "x"⟩,
      ⟨"palette", some (WireType.list .color).ref, none⟩] := by
  rfl

end RpcSchema.Drawing
