import RpcSchema.Proofs.Identifiers
import RpcSchema.Proofs.Schema.DistinctNames

/-!
# Names of a schema are legal

Every name that code generated from a schema uses comes from names in the schema, some from several.
The name of a type in place is put together from all positions on the way to it, and it stays legal
with every step. So types and variants have legal names in every schema that the verifier accepts.
Members have them unless they are written like one of a few words.

## Main definitions

* `Schema.WrittenLayerAt` — the names that the builder makes
* `Schema.NamesVariant`, `Schema.NamesMember` — what variants and members are named for
* `Schema.LegalNames` — all names are legal identifiers

## Main results

* `isTypeName_of_mem_typeNames` — types have legal names
* `isIdentifier_iff` — which names are legal
-/

namespace RpcSchema.Schema

open RpcSchema.Naming
open RpcSchema.Entry (Parsed)

variable {enums : List String}

/-! ### Names made by the builder -/

/-- One layer of a type that is written in a position. A list is written where its items are, and
fields in place for the name made from the owner and the position. -/
def WrittenLayerAt (enums : List String) (owner position : String) : TypeRef → Prop
  | .scalar _ => True
  | .enum _ => True
  | .named _ => True
  | .array item => WrittenAt enums owner position item
  | .anonymous name fields => name = owner ++ pascalCase position ∧
      ∀ field ∈ fields, WrittenAt enums name field.name field.type

theorem WrittenAt.layer {owner position : String} {type : TypeRef}
    (h : WrittenAt enums owner position type) : WrittenLayerAt enums owner position type := by
  obtain ⟨value, h⟩ := h
  match value with
  | .string word =>
    rw [typeRef, Except.ok.injEq] at h
    obtain ⟨s, hw⟩ | ⟨-, hw⟩ | ⟨-, hw⟩ := namedType_cases enums word <;> rw [← h, hw] <;> trivial
  | .list [] => cases h
  | .list (_ :: _ :: _) => cases h
  | .list [value] =>
    rw [typeRef] at h
    obtain ⟨type, htype, h⟩ := bind_eq_ok.mp h
    cases h
    exact ⟨value, htype⟩
  | .map members =>
    rw [typeRef] at h
    obtain ⟨fields, hfields, h⟩ := bind_eq_ok.mp h
    cases h
    exact ⟨rfl, fieldsOf_ok hfields⟩

/-- Names stay legal on the way to fields in place. -/
theorem isTypeName_of_occursIn {owner position name : String} {fields : List Field} {type : TypeRef}
    (howner : IsTypeName owner) (hposition : PlainName position)
    (hwritten : WrittenAt enums owner position type)
    (hplain : ∀ name fields, OccursIn (.anonymous name fields) type →
      ∀ field ∈ fields, PlainName field.name)
    (hp : OccursIn (.anonymous name fields) type) : IsTypeName name := by
  induction hp generalizing owner position with
  | self =>
    obtain ⟨rfl, -⟩ := hwritten.layer
    exact howner.append_pascalCase hposition
  | item _ ih =>
    exact ih howner hposition hwritten.layer fun name fields h => hplain name fields (.item h)
  | @field outer siblings field hmem _ ih =>
    obtain ⟨rfl, hfields⟩ := hwritten.layer
    exact ih (howner.append_pascalCase hposition) (hplain _ siblings .self field hmem)
      (hfields field hmem) fun name fields h => hplain name fields (.field hmem h)

/-! ### Names of a schema -/

/-- The schema has a variant of this label, in an enum or in a union. -/
def NamesVariant (schema : Schema) (label : String) : Prop :=
  ∃ d ∈ schema.definitions,
    (∃ labels union, d.body = .enum labels union ∧ label ∈ labels) ∨
      ∃ members, d.body = .union members ∧ label ∈ members.map (·.name)

/-- The schema has a member of this name: a field, a parameter, a command, an event or an option. -/
def NamesMember (schema : Schema) (name : String) : Prop :=
  (∃ field, schema.HasField field ∧ field.name = name) ∨
    ∃ d ∈ schema.definitions, d.kind ∈ [.command, .event, .option] ∧ d.name = name

/-- All names that generated code takes from a schema are legal identifiers. -/
structure LegalNames (schema : Schema) : Prop where
  types : ∀ name ∈ schema.typeNames, IsIdentifier name
  variants : ∀ label, schema.NamesVariant label → IsIdentifier (variantName label)
  members : ∀ name, schema.NamesMember name → IsIdentifier (memberName name)

variable {entries : List Parsed} {schema : Schema}

theorem exists_madeWith (h : build entries = .ok schema) :
    ∃ enums, ∀ d ∈ schema.definitions, MadeWith enums d := by
  obtain ⟨heads, groups, hdefs, hgroups⟩ := build_ok h
  refine ⟨enumNames heads, fun d hd => ?_⟩
  rw [hdefs] at hd
  obtain ⟨ds, hds, hd⟩ := List.mem_flatten.mp hd
  obtain ⟨_, _, hdeclares⟩ := exists_item hgroups hds
  exact hdeclares.madeWith d hd

/-- The members of a union are the labels of an enum. -/
theorem exists_enum_of_union (h : build entries = .ok schema) {d : Definition}
    (hd : d ∈ schema.definitions) {members : List Field} (hbody : d.body = .union members) :
    ∃ e ∈ schema.definitions, ∃ union, e.body = .enum (members.map (·.name)) union := by
  obtain ⟨heads, groups, hdefs, hgroups⟩ := build_ok h
  rw [hdefs] at hd ⊢
  obtain ⟨ds, hds, hd⟩ := List.mem_flatten.mp hd
  obtain ⟨_, _, hdeclares⟩ := exists_item hgroups hds
  cases hdeclares with
  | single hunion _ hkind _ =>
    obtain rfl := List.mem_singleton.mp hd
    rw [← hkind, Definition.kind, hbody] at hunion
    exact absurd rfl hunion
  | @union kind union fields _ _ hkind _ hbody' _ =>
    rcases List.mem_cons.mp hd with rfl | hd
    · rw [hkind] at hbody
      cases hbody
    · obtain rfl := List.mem_singleton.mp hd
      rw [hbody', Body.union.injEq] at hbody
      subst hbody
      exact ⟨kind, List.mem_flatten.mpr ⟨_, hds, List.mem_cons_self⟩, _, hkind⟩

variable (hbuild : build entries = .ok schema) (hv : schema.verify = .ok ())

section

include hv

theorem isDefinitionName_of_mem {d : Definition} (hd : d ∈ schema.definitions) :
    isDefinitionName d.name :=
  ((checkNames_ok (names_ok hv)).1 d hd).1

include hbuild

/-- Fields in place have legal names, whatever their depth. -/
theorem isTypeName_of_writes {name : String} {fields : List Field}
    (h : schema.Writes (.anonymous name fields)) : IsTypeName name := by
  obtain ⟨enums, hmade⟩ := exists_madeWith hbuild
  obtain ⟨d, hd, type, htype, hp⟩ := h
  obtain ⟨position, hposition, hwritten⟩ := hmade d hd type htype
  have hplain : PlainName position := by
    rcases hposition with hposition | hposition
    · obtain ⟨field, hfield, rfl⟩ := List.mem_map.mp hposition
      exact plainName_of_isFieldName ((accepted hv hd).fieldNames field hfield)
    · have hall : ∀ position ∈ ["data", "returns"], isFieldName position := by decide
      exact plainName_of_isFieldName (hall position hposition)
  refine isTypeName_of_occursIn (isTypeName_typeName (isDefinitionName_of_mem hv hd)) hplain
    hwritten (fun name fields h field hfield => ?_) hp
  exact plainName_of_isFieldName
    (isFieldName_of_hasField hv (.inr ⟨name, fields, ⟨d, hd, type, htype, h⟩, hfield⟩))

theorem isTypeName_of_mem_typeNames : ∀ name ∈ schema.typeNames, IsTypeName name := by
  intro name hname
  rw [schema.typeNames_perm.mem_iff, List.mem_append] at hname
  rcases hname with hname | hname
  · obtain ⟨d, hd, hname⟩ := List.mem_flatMap.mp hname
    have hdefinition := isDefinitionName_of_mem hv hd
    obtain ⟨own, line, body⟩ := d
    cases body with
    | event fields =>
      obtain ⟨ending, hending, rfl⟩ : ∃ ending ∈ ["Event", "Func", "Signal"],
          name = pascalCase own ++ ending := by
        simpa [Definition.ownTypeNames, eventTypeName, eventFuncName, eventSignalName] using hname
      exact isTypeName_event hdefinition hending
    | command params returns => cases hname
    | option type implicit => cases hname
    | _ =>
      obtain rfl := List.mem_singleton.mp hname
      exact isTypeName_typeName hdefinition
  · obtain ⟨a, ha, rfl⟩ := List.mem_map.mp hname
    exact isTypeName_of_writes hbuild hv (mem_aggregates.mp ha)

theorem isLabel_of_namesVariant {label : String} (h : schema.NamesVariant label) :
    isLabel label := by
  have hlabels : ∀ d ∈ schema.definitions, ∀ labels union, d.body = .enum labels union →
      label ∈ labels → isLabel label := fun d hd labels union hbody hlabel =>
    ((accepted hv hd).labels labels union hbody).2 label hlabel
  obtain ⟨d, hd, ⟨labels, union, hbody, hlabel⟩ | ⟨members, hbody, hlabel⟩⟩ := h
  · exact hlabels d hd labels union hbody hlabel
  · obtain ⟨e, he, union, henum⟩ := exists_enum_of_union hbuild hd hbody
    exact hlabels e he _ union henum hlabel

omit hbuild in
theorem isFieldName_of_namesMember {name : String} (h : schema.NamesMember name) :
    isFieldName name := by
  rcases h with ⟨field, hfield, rfl⟩ | ⟨d, hd, -, rfl⟩
  · exact isFieldName_of_hasField hv hfield
  · exact isFieldName_of_isDefinitionName (isDefinitionName_of_mem hv hd)

end

include hbuild hv in
/-- In an accepted schema types and variants have legal names, and so have members, except those
that are named by a lone underscore or by a spelling of a word that is kept but not escaped. -/
theorem isIdentifier_iff : (∀ name ∈ schema.typeNames, IsIdentifier name) ∧
    (∀ label, schema.NamesVariant label → IsIdentifier (variantName label)) ∧
    ∀ name, schema.NamesMember name → (IsIdentifier (memberName name) ↔
      name ≠ "_" ∧ ∀ word ∈ unescapedWords, name ∉ spellings word) := by
  refine ⟨fun name hname => ?_, fun label hlabel => ?_, fun name hname => ?_⟩
  · exact (isTypeName_of_mem_typeNames hbuild hv name hname).isIdentifier
  · exact (isTypeName_variantName (isLabel_of_namesVariant hbuild hv hlabel)).isIdentifier
  · exact isIdentifier_memberName_iff (isFieldName_of_namesMember hv hname)

/-- A struct with a field that has a word kept for later as its name. -/
def summaryEntries : List Parsed :=
  [⟨.map [("type", .string "Doc"), ("data", .map [("abstract", .string "str")])], 1⟩]

/-- The schema of `summaryEntries`. -/
def summary : Schema where
  definitions := [⟨"Doc", 1, .struct [⟨"abstract", .scalar .str, false⟩]⟩]

theorem build_summary : build summaryEntries = .ok summary := rfl

theorem verify_summary : summary.verify = .ok () :=
  verify_eq_ok.mpr ⟨rfl, rfl, rfl, by cbv⟩

theorem isIdentifier_summary_iff : build summaryEntries = .ok summary ∧ summary.verify = .ok () ∧
    (∀ name ∈ ["Doc"], IsIdentifier name) ∧
    (∀ label, summary.NamesVariant label → IsIdentifier (variantName label)) ∧
    ∀ name, summary.NamesMember name → (IsIdentifier (memberName name) ↔
      name ≠ "_" ∧ ∀ word ∈ unescapedWords, name ∉ spellings word) :=
  ⟨build_summary, verify_summary, isIdentifier_iff build_summary verify_summary⟩

/-- The field keeps its name, which is not a legal one. -/
theorem not_legalNames : ¬∀ entries schema, build entries = .ok schema →
    schema.verify = .ok () → schema.LegalNames := by
  intro h
  have hmember : summary.NamesMember "abstract" :=
    .inl ⟨_, .inl ⟨_, List.mem_cons_self, List.mem_cons_self⟩, rfl⟩
  have hidentifier := (h _ _ build_summary verify_summary).members "abstract" hmember
  have hname : memberName "abstract" = "abstract" := by decide
  have hreserved : "abstract" ∈ reservedWords := by decide
  exact hidentifier.notMem (hname ▸ hreserved)

end RpcSchema.Schema
