import Mathlib.Data.List.Perm.Basic
import RpcSchema.Code.Aggregate
import RpcSchema.Schema.Dependency
import RpcSchema.Schema.GeneratedNames

/-!
# The types that a schema is written with

A definition is written with types, and a list or fields in place are written with further types
in turn. The functions of the library that look into types each follow that nesting in their own
order; here it is one relation, `OccursIn`, and the functions are characterised by it.

## Main definitions

* `TypeRef.induct` — induction over the nesting of types
* `OccursIn` — a type stands somewhere inside another, at any depth
* `Definition.fields`, `Definition.inputTypes`, `Definition.result?`, `Definition.types` — what a
  definition is written with
* `Schema.Writes`, `Schema.HasField` — a type or a field stands somewhere in a schema

## Main results

* `mem_aggregates`, `Definition.mem_aggregates` — the fields in place are those that occur
* `anonymousNames_perm` — their names, whatever the order
-/

namespace RpcSchema

/-! ### Nesting -/

/-- Induction over types. Fields in place are reached through the list of their fields. -/
@[elab_as_elim]
theorem TypeRef.induct {P : TypeRef → Prop} (scalar : ∀ s, P (.scalar s))
    (enum : ∀ name, P (.enum name)) (named : ∀ name, P (.named name))
    (array : ∀ item, P item → P (.array item))
    (anonymous : ∀ name fields, (∀ field ∈ fields, P field.type) → P (.anonymous name fields))
    (type : TypeRef) : P type :=
  TypeRef.rec (motive_2 := fun fields => ∀ field ∈ fields, P field.type)
    (motive_3 := fun field => P field.type) scalar enum named array anonymous
    (fun _ h => absurd h List.not_mem_nil)
    (fun _ _ hfield hrest => List.forall_mem_cons.mpr ⟨hfield, hrest⟩) (fun _ _ _ h => h) type

/-- A type stands inside another one, or is that type. -/
inductive OccursIn (part : TypeRef) : TypeRef → Prop
  | self : OccursIn part part
  | item {type : TypeRef} : OccursIn part type → OccursIn part (.array type)
  | field {name : String} {fields : List Field} {field : Field} :
    field ∈ fields → OccursIn part field.type → OccursIn part (.anonymous name fields)

theorem OccursIn.trans {a b c : TypeRef} (hab : OccursIn a b) (hbc : OccursIn b c) :
    OccursIn a c := by
  induction hbc with
  | self => exact hab
  | item _ ih => exact .item ih
  | field hmem _ ih => exact .field hmem ih

/-! ### Fields in place -/

theorem fieldAggregates_eq (fields : List Field) :
    fieldAggregates fields = (fieldTypes fields).flatMap aggregates := by
  induction fields with
  | nil => rfl
  | cons field rest ih =>
    rw [fieldAggregates, ih]
    rfl

theorem anonymousFieldNames_eq (fields : List Field) :
    anonymousFieldNames fields = (fieldTypes fields).flatMap anonymousNames := by
  induction fields with
  | nil => rfl
  | cons field rest ih =>
    rw [anonymousFieldNames, ih]
    rfl

/-- The fields in place inside a type are those that occur in it. -/
theorem mem_aggregates {a : Aggregate} {type : TypeRef} :
    a ∈ aggregates type ↔ OccursIn (.anonymous a.name a.fields) type := by
  induction type using TypeRef.induct with
  | scalar s => exact ⟨fun h => absurd h List.not_mem_nil, nofun⟩
  | enum name => exact ⟨fun h => absurd h List.not_mem_nil, nofun⟩
  | named name => exact ⟨fun h => absurd h List.not_mem_nil, nofun⟩
  | array item ih =>
    rw [aggregates, ih]
    refine ⟨.item, fun h => ?_⟩
    cases h with
    | item h => exact h
  | anonymous name fields ih =>
    rw [aggregates, fieldAggregates_eq, List.mem_append, List.mem_flatMap, List.mem_singleton]
    constructor
    · rintro (⟨type, htype, ha⟩ | rfl)
      · obtain ⟨field, hfield, rfl⟩ := List.mem_map.mp htype
        exact .field hfield ((ih field hfield).mp ha)
      · exact .self
    · intro h
      cases h with
      | self => exact .inr rfl
      | field hfield h =>
        exact .inl ⟨_, List.mem_map.mpr ⟨_, hfield, rfl⟩, (ih _ hfield).mpr h⟩

/-- The verifier lists the names of fields in place from the outside in, and the generator declares
them from the inside out. -/
theorem anonymousNames_perm (type : TypeRef) :
    (anonymousNames type).Perm ((aggregates type).map (·.name)) := by
  induction type using TypeRef.induct with
  | scalar s => exact .nil
  | enum name => exact .nil
  | named name => exact .nil
  | array item ih => exact ih
  | anonymous name fields ih =>
    rw [anonymousNames, aggregates, anonymousFieldNames_eq, fieldAggregates_eq, List.map_append,
      List.map_flatMap]
    have hinner : ((fieldTypes fields).flatMap anonymousNames).Perm
        ((fieldTypes fields).flatMap fun type => (aggregates type).map (·.name)) := by
      refine List.Perm.flatMap_left _ fun type htype => ?_
      obtain ⟨field, hfield, rfl⟩ := List.mem_map.mp htype
      exact ih field hfield
    exact (hinner.cons name).trans (List.perm_append_singleton _ _).symm

theorem anonymousFieldNames_perm (fields : List Field) :
    (anonymousFieldNames fields).Perm ((fieldAggregates fields).map (·.name)) := by
  rw [anonymousFieldNames_eq, fieldAggregates_eq, List.map_flatMap]
  exact List.Perm.flatMap_left _ fun type _ => anonymousNames_perm type

/-! ### Definitions -/

/-- The fields that a definition lists: fields, members or parameters. -/
def Definition.fields (d : Definition) : List Field :=
  match d.body with
  | .struct fields => fields
  | .union members => members
  | .event fields => fields
  | .command params _ => params.toFields
  | _ => []

/-- The types that values come in by: fields, members and parameters, the payload of a handle, and
the type of an option. -/
def Definition.inputTypes (d : Definition) : List TypeRef :=
  match d.body with
  | .struct fields => fieldTypes fields
  | .enum _ _ => []
  | .union members => fieldTypes members
  | .handle payload => [payload]
  | .event fields => fieldTypes fields
  | .command params _ => fieldTypes params.toFields
  | .option type _ => type.toList

/-- The type that a command returns. -/
def Definition.result? (d : Definition) : Option TypeRef :=
  match d.body with
  | .command _ returns => some returns
  | _ => none

/-- The types that a definition is written with. -/
def Definition.types (d : Definition) : List TypeRef := d.inputTypes ++ d.result?.toList

/-- A definition of a type is written with its children. -/
theorem Definition.children_eq {d : Definition} (h : d.isType) : d.children = d.types := by
  obtain ⟨name, line, body⟩ := d
  cases body with
  | command params returns => simp [isType, kind, Body.kind, Kind.isType] at h
  | option type implicit => simp [isType, kind, Body.kind, Kind.isType] at h
  | _ => simp [children, types, inputTypes, result?]

theorem Definition.aggregates_eq (d : Definition) :
    d.aggregates = d.types.flatMap RpcSchema.aggregates := by
  obtain ⟨name, line, body⟩ := d
  cases body with
  | option type implicit => cases type <;> simp [aggregates, types, inputTypes, result?]
  | _ => simp [aggregates, types, inputTypes, result?, fieldAggregates_eq]

/-- The fields in place inside a definition are those that occur in its types. -/
theorem Definition.mem_aggregates {a : Aggregate} {d : Definition} :
    a ∈ d.aggregates ↔ ∃ type ∈ d.types, OccursIn (.anonymous a.name a.fields) type := by
  simp only [Definition.aggregates_eq, List.mem_flatMap, RpcSchema.mem_aggregates]

/-! ### Schemas -/

namespace Schema

/-- A type stands somewhere in a schema. -/
def Writes (schema : Schema) (part : TypeRef) : Prop :=
  ∃ d ∈ schema.definitions, ∃ type ∈ d.types, OccursIn part type

/-- The fields in place of a schema. -/
def aggregates (schema : Schema) : List Aggregate :=
  schema.definitions.flatMap Definition.aggregates

/-- A field stands somewhere in a schema: in a definition or among fields in place. -/
def HasField (schema : Schema) (field : Field) : Prop :=
  (∃ d ∈ schema.definitions, field ∈ d.fields) ∨
    ∃ name fields, schema.Writes (.anonymous name fields) ∧ field ∈ fields

theorem Writes.of_occursIn {schema : Schema} {part type : TypeRef} (hp : OccursIn part type)
    (h : schema.Writes type) : schema.Writes part := by
  obtain ⟨d, hd, whole, hwhole, ht⟩ := h
  exact ⟨d, hd, whole, hwhole, hp.trans ht⟩

theorem mem_aggregates {schema : Schema} {a : Aggregate} :
    a ∈ schema.aggregates ↔ schema.Writes (.anonymous a.name a.fields) := by
  simp only [aggregates, List.mem_flatMap, Definition.mem_aggregates, Writes]

end Schema

end RpcSchema
