import RpcSchema.Code.Artifact
import RpcSchema.Proofs.Schema.Building
import RpcSchema.Proofs.Schema.Verified
import RpcSchema.Schema.Compile

/-!
# Compiled schemas are sound

The guarantee that a compiled schema gives to everything that reads it: each name leads to a
definition of the right kind, whatever the depth at which it stands, all names are plain, and no
list that must not be empty is empty. So any part of the code can be generated.

Neither half of the compiler gives it alone. The builder knows which names are enums, but not
whether the others are defined; the verifier looks the others up, but believes the builder about
enums.

## Main definitions

* `Schema.Resolves` — a type whose own name leads where it should
* `PlainName` — a name of ASCII letters, digits, hyphens and underscores
* `Schema.Sound` — the guarantee

## Main results

* `generate_ok` — code can be generated if no union is empty
* `compile_sound` — every compiled schema is sound
-/

namespace RpcSchema

namespace Schema

variable {schema : Schema}

/-! ### Names that are written -/

/-- A type whose own name, if it has one, leads where it should: an enum to an enum, another name to
a struct, a union or a handle, and nothing is of type `none`. -/
def Resolves (schema : Schema) : TypeRef → Prop
  | .scalar s => s ≠ .none
  | .enum name => ∃ d, schema.lookup? name = some d ∧ d.kind = .enum
  | .named name => ∃ d, schema.lookup? name = some d ∧
      (d.kind = .struct ∨ d.kind = .union ∨ d.kind = .handle)
  | .array _ => True
  | .anonymous _ _ => True

theorem isType_of_kind_enum {d : Definition} (h : d.kind = .enum) : d.isType := by
  rw [Definition.isType, h]
  rfl

theorem kind_of_isType {d : Definition} (h : d.isType) (henum : d.kind ≠ .enum)
    (hevent : d.kind ≠ .event) : d.kind = .struct ∨ d.kind = .union ∨ d.kind = .handle := by
  rw [Definition.isType] at h
  cases hk : d.kind <;> simp_all [Kind.isType]

/-- An enum is found under its name. -/
theorem Classified.lookup?_enum (hc : schema.Classified) (hv : schema.verify = .ok ())
    {name : String} (hw : schema.Writes (.enum name)) :
    ∃ d, schema.lookup? name = some d ∧ d.kind = .enum := by
  obtain ⟨d, hd, hkind, rfl⟩ := hc.enum_declared hw
  exact ⟨d, lookup?_of_mem hv hd (isType_of_kind_enum hkind), hkind⟩

/-- The two halves together: what the builder classifies and the verifier checks resolves. -/
theorem resolves_of_typeChecks (hc : schema.Classified) (hv : schema.verify = .ok ())
    {type : TypeRef} (hw : schema.Writes type) (h : TypeChecks schema type) :
    schema.Resolves type := by
  match type with
  | .scalar s => exact h.checked
  | .enum name => exact hc.lookup?_enum hv hw
  | .named name =>
    obtain ⟨d, hd, hevent⟩ := h.checked.named
    obtain ⟨hmem, htype, rfl⟩ := lookup?_some hd
    refine ⟨d, hd, kind_of_isType htype (fun henum => ?_) hevent⟩
    exact hc.named_ne_enum hw d hmem henum rfl
  | .array item => trivial
  | .anonymous name fields => trivial

end Schema

/-! ### Spelling -/

/-- A name of ASCII letters, digits, hyphens and underscores. -/
def PlainName (name : String) : Prop := ∀ c ∈ name.toList, c.isAlphanum ∨ c = '-' ∨ c = '_'

theorem isNameChar_iff {c : Char} :
    Schema.isNameChar c ↔ c.isAlphanum ∨ c = '-' ∨ c = '_' := by
  simp only [Schema.isNameChar, Bool.or_eq_true, decide_eq_true_eq]
  tauto

theorem plainName_of_isSpelled {first : Char → Bool} {name : String}
    (hfirst : ∀ c, first c → c.isAlphanum ∨ c = '-' ∨ c = '_') (h : Schema.isSpelled first name) :
    PlainName name := by
  unfold Schema.isSpelled at h
  unfold PlainName
  split at h
  · cases h
  · rename_i c rest hname
    rw [Bool.and_eq_true, List.all_eq_true] at h
    rw [hname, List.forall_mem_cons]
    exact ⟨hfirst c h.1, fun c hc => isNameChar_iff.mp (h.2 c hc)⟩

theorem isAlphanum_of_isAlpha {c : Char} (h : c.isAlpha) : c.isAlphanum := by
  simp [Char.isAlphanum, h]

theorem plainName_of_isDefinitionName {name : String} (h : Schema.isDefinitionName name) :
    PlainName name :=
  plainName_of_isSpelled (fun _ h => .inl (isAlphanum_of_isAlpha h)) h

theorem plainName_of_isLabel {label : String} (h : Schema.isLabel label) : PlainName label :=
  plainName_of_isSpelled (fun _ h => .inl h) h

theorem plainName_of_isFieldName {name : String} (h : Schema.isFieldName name) :
    PlainName name := by
  refine plainName_of_isSpelled (fun c h => ?_) h
  simp only [Bool.or_eq_true, decide_eq_true_eq] at h
  rcases h with h | h
  · exact .inl (isAlphanum_of_isAlpha h)
  · exact .inr (.inr h)

/-! ### Generation -/

namespace Code

theorem exists_definitionImplItems {c : Context} {d : Definition}
    (h : ∀ members, d.body = .union members → members ≠ []) :
    ∃ items, definitionImplItems c d = .ok items := by
  obtain ⟨name, line, body⟩ := d
  cases body with
  | union members =>
    cases members with
    | nil => exact absurd rfl (h [] rfl)
    | cons first rest => exact ⟨_, rfl⟩
  | _ => exact ⟨_, rfl⟩

theorem exists_items {c : Context}
    (h : ∀ d ∈ c.schema.definitions, ∀ members, d.body = .union members → members ≠ [])
    (part : Part) : ∃ items, part.items c = .ok items := by
  cases part with
  | typeImpls =>
    obtain ⟨items, hitems⟩ := exists_mapM_eq_ok.mpr fun d hd =>
      exists_definitionImplItems (c := c) (h d hd)
    exact ⟨_, bind_eq_ok.mpr ⟨items, hitems, rfl⟩⟩
  | _ => exact ⟨_, rfl⟩

theorem exists_partsText {c : Context}
    (h : ∀ d ∈ c.schema.definitions, ∀ members, d.body = .union members → members ≠ [])
    (parts : List Part) : ∃ text, partsText c parts = .ok text := by
  have hsteps : ∀ part ∈ parts, ∃ steps, Part.steps c part = .ok steps := by
    intro part _
    obtain ⟨items, hitems⟩ := exists_items h part
    exact ⟨_, bind_eq_ok.mpr ⟨items, hitems, rfl⟩⟩
  obtain ⟨steps, hsteps⟩ := exists_mapM_eq_ok.mpr hsteps
  exact ⟨_, bind_eq_ok.mpr ⟨steps, hsteps, rfl⟩⟩

/-- Only a union without members stands in the way of an artifact. -/
theorem exists_generate {schema : Schema}
    (h : ∀ d ∈ schema.definitions, ∀ members, d.body = .union members → members ≠ [])
    (config : Config) (artifact : Artifact) :
    ∃ text, generate schema config artifact = .ok text := by
  cases artifact with
  | part part => exact exists_partsText h [part]
  | all => exact exists_partsText h Part.all
  | metadata => exact ⟨_, rfl⟩

end Code

/-! ### Compiled schemas -/

namespace Schema

/-- The guarantee of a compiled schema. -/
structure Sound (schema : Schema) : Prop where
  /-- Wherever values come in, names lead where they should, at any depth. -/
  inputs : ∀ d ∈ schema.definitions, ∀ type ∈ d.inputTypes, ∀ part,
    OccursIn part type → schema.Resolves part
  /-- A command returns nothing, an event, or a type as everywhere else. -/
  results : ∀ d ∈ schema.definitions, ∀ type ∈ d.result?, type = .scalar .none ∨
    (∃ name event, type = .named name ∧ schema.lookup? name = some event ∧ event.kind = .event) ∨
    ∀ part, OccursIn part type → schema.Resolves part
  names : ∀ d ∈ schema.definitions, PlainName d.name
  fields : ∀ field, schema.HasField field → PlainName field.name
  enums : ∀ d ∈ schema.definitions, ∀ labels union, d.body = .enum labels union →
    labels ≠ [] ∧ ∀ label ∈ labels, PlainName label
  unions : ∀ d ∈ schema.definitions, ∀ members, d.body = .union members → members ≠ []
  /-- Every artifact can be generated. -/
  generates : ∀ config artifact, ∃ text, Code.generate schema config artifact = .ok text

variable {schema : Schema}

theorem compile_ok {text : String} (h : compile text = .ok schema) :
    (∃ entries, build entries = .ok schema) ∧ schema.verify = .ok () := by
  obtain ⟨built, hbuilt, h⟩ := bind_eq_ok.mp h
  obtain ⟨_, hverify, h⟩ := bind_eq_ok.mp h
  cases h
  obtain ⟨entries, _, hbuild⟩ := bind_eq_ok.mp hbuilt
  exact ⟨⟨entries, mapError_eq_ok.mp hbuild⟩, mapError_eq_ok.mp hverify⟩

theorem accepted (hv : schema.verify = .ok ()) {d : Definition} (hd : d ∈ schema.definitions) :
    schema.Accepted d :=
  checkDefinition_ok (definition_ok hv hd)

theorem mem_types_of_input {d : Definition} {type : TypeRef} (h : type ∈ d.inputTypes) :
    type ∈ d.types := List.mem_append_left _ h

theorem mem_types_of_result {d : Definition} {type : TypeRef} (h : type ∈ d.result?) :
    type ∈ d.types := List.mem_append_right _ (Option.mem_toList.mpr h)

theorem returnedEvent?_isSome {type : TypeRef} (h : (schema.returnedEvent? type).isSome) :
    ∃ name event, type = .named name ∧ schema.lookup? name = some event ∧ event.kind = .event := by
  obtain ⟨event, h⟩ := Option.isSome_iff_exists.mp h
  match type with
  | .named name =>
    obtain ⟨hlookup, hkind⟩ := Option.filter_eq_some_iff.mp h
    exact ⟨name, event, rfl, hlookup, by simpa using hkind⟩

/-- The parts of a type that the check accepts in some position resolve. -/
theorem resolves_of_occursIn (hc : schema.Classified) (hv : schema.verify = .ok ())
    {d : Definition} (hd : d ∈ schema.definitions) {type : TypeRef} (ht : type ∈ d.types)
    (h : TypeChecks schema type) {part : TypeRef} (hp : OccursIn part type) :
    schema.Resolves part :=
  resolves_of_typeChecks hc hv ⟨d, hd, type, ht, hp⟩ (h.of_occursIn hp)

/-- A field in place has a checked name: a result that is only an event has no such fields. -/
theorem isFieldName_of_hasField (hv : schema.verify = .ok ()) {field : Field}
    (h : schema.HasField field) : isFieldName field.name := by
  rcases h with ⟨d, hd, hfield⟩ | ⟨name, fields, ⟨d, hd, type, htype, hpart⟩, hfield⟩
  · exact (accepted hv hd).fieldNames field hfield
  have hchecks : TypeChecks schema type → isFieldName field.name := fun h =>
    (h.of_occursIn hpart).checked field hfield
  rcases List.mem_append.mp htype with hinput | hresult
  · exact hchecks ((accepted hv hd).inputs type hinput)
  rcases (accepted hv hd).result type (Option.mem_toList.mp hresult) with rfl | hevent | htypes
  · cases hpart
  · obtain ⟨name, event, rfl, -⟩ := returnedEvent?_isSome hevent
    cases hpart
  · exact hchecks htypes

/-- Every schema that compiles is sound. -/
theorem compile_sound {text : String} (h : compile text = .ok schema) : schema.Sound := by
  obtain ⟨⟨entries, hbuild⟩, hv⟩ := compile_ok h
  have hc := build_classified hbuild
  have hunions : ∀ d ∈ schema.definitions, ∀ members, d.body = .union members → members ≠ [] :=
    fun d hd => (accepted hv hd).members
  constructor
  · intro d hd type htype part hpart
    exact resolves_of_occursIn hc hv hd (mem_types_of_input htype)
      ((accepted hv hd).inputs type htype) hpart
  · intro d hd type htype
    rcases (accepted hv hd).result type htype with hnone | hevent | hchecks
    · exact .inl hnone
    · exact .inr (.inl (returnedEvent?_isSome hevent))
    · refine .inr (.inr fun part hpart => ?_)
      exact resolves_of_occursIn hc hv hd (mem_types_of_result htype) hchecks hpart
  · intro d hd
    exact plainName_of_isDefinitionName ((checkNames_ok (names_ok hv)).1 d hd).1
  · intro field hfield
    exact plainName_of_isFieldName (isFieldName_of_hasField hv hfield)
  · intro d hd labels union hbody
    obtain ⟨hlabels, hplain⟩ := (accepted hv hd).labels labels union hbody
    exact ⟨hlabels, fun label hlabel => plainName_of_isLabel (hplain label hlabel)⟩
  · exact hunions
  · exact Code.exists_generate hunions

/-- A text with a list inside fields in place and a command that returns an event. -/
def groveText : String :=
  "\x7b 'type': 'Tree', 'data': \x7b '*fork': \x7b 'kids': [ 'Tree' ] \x7d \x7d \x7d\n" ++
  "\x7b 'event': 'GREW' \x7d\n" ++
  "\x7b 'command': 'grow', 'returns': 'GREW' \x7d"

/-- The schema of `groveText`. -/
def grove : Schema where
  definitions := [
    ⟨"Tree", 1, .struct
      [⟨"fork", .anonymous "TreeFork" [⟨"kids", .array (.named "Tree"), false⟩], true⟩]⟩,
    ⟨"GREW", 2, .event []⟩,
    ⟨"grow", 3, .command (.fields []) (.named "GREW")⟩]

theorem ofText_grove : ofText groveText = .ok grove := by
  decide +kernel

theorem verify_grove : grove.verify = .ok () :=
  verify_eq_ok.mpr ⟨rfl, rfl, rfl, by cbv⟩

theorem sound_grove : compile groveText = .ok grove ∧ grove.Sound := by
  have hcompile : compile groveText = .ok grove :=
    bind_eq_ok.mpr ⟨grove, ofText_grove, bind_eq_ok.mpr ⟨(), mapError_eq_ok.mpr verify_grove, rfl⟩⟩
  exact ⟨hcompile, compile_sound hcompile⟩

end Schema

end RpcSchema
