import RpcSchema.Proofs.Schema.Boundary

/-!
# What the search for dependencies may find

Conversion code is only written for what the search finds, so a search that found too much would
write code that nothing needs. What can be met from a type is said here without the search: by
following items of lists, fields in place, the members of what a name is defined as, and for a union
the enum of its members. A search finds no other names than those it was given and those that can be
met from the types it looks at.

The search itself is said as the recursion that it is, with a rule for each kind of type and no
bound. A derivation from these rules is a search that ends, whatever is recursive in the schema.

## Main definitions

* `Schema.MadeOf`, `Schema.Follows` — what a name is defined as, and one step from a type
* `Schema.Met` — the names that can be met from a type
* `Schema.Adds`, `Schema.AddsAll` — the search as a recursion, for one type and for several
* `Schema.CrossesWire`, `Schema.ReadFromText` — the types that searches start from

## Main results

* `adds_iff` — the search ends, and in one way only
* `met_of_mem_collect` — a name that the search adds can be met
* `reach_pruned` — the search ends and finds no more than it should, wherever it starts
-/

namespace RpcSchema.Schema

variable {schema : Schema}

/-! ### What can be met -/

/-- What the definition of a name is made of: a field, a member or a payload. -/
inductive MadeOf (schema : Schema) (name : String) : TypeRef → Prop
  | struct {d : Definition} {fields : List Field} {field : Field}
    (hlookup : schema.lookup? name = some d) (hbody : d.body = .struct fields)
    (hfield : field ∈ fields) : MadeOf schema name field.type
  | event {d : Definition} {fields : List Field} {field : Field}
    (hlookup : schema.lookup? name = some d) (hbody : d.body = .event fields)
    (hfield : field ∈ fields) : MadeOf schema name field.type
  | union {d : Definition} {members : List Field} {field : Field}
    (hlookup : schema.lookup? name = some d) (hbody : d.body = .union members)
    (hfield : field ∈ members) : MadeOf schema name field.type
  | handle {d : Definition} {payload : TypeRef} (hlookup : schema.lookup? name = some d)
    (hbody : d.body = .handle payload) : MadeOf schema name payload

/-- One step from a type to what it is made of. -/
inductive Follows (schema : Schema) : TypeRef → TypeRef → Prop
  | item {type : TypeRef} : Follows schema (.array type) type
  | field {name : String} {fields : List Field} {field : Field} (hfield : field ∈ fields) :
    Follows schema (.anonymous name fields) field.type
  | member {name : String} {type : TypeRef} (h : schema.MadeOf name type) :
    Follows schema (.named name) type
  /-- the enum of a union's members -/
  | kind {name : String} {d : Definition} {members : List Field}
    (hlookup : schema.lookup? name = some d) (hbody : d.body = .union members) :
    Follows schema (.named name) (.enum (Naming.kindName d.name))

/-- A name can be met from a type: it is that of the type itself, or of one that is any number of
steps away. -/
def Met (schema : Schema) (type : TypeRef) (name : String) : Prop :=
  ∃ part, Relation.ReflTransGen schema.Follows type part ∧ Means name part

theorem madeOf_of_mem_children {name : String} {d : Definition} {type : TypeRef}
    (hlookup : schema.lookup? name = some d) (h : type ∈ d.children) : schema.MadeOf name type := by
  unfold Definition.children at h
  split at h
  · rename_i fields hbody
    obtain ⟨field, hfield, rfl⟩ := List.mem_map.mp h
    exact .struct hlookup hbody hfield
  · rename_i members hbody
    obtain ⟨field, hfield, rfl⟩ := List.mem_map.mp h
    exact .union hlookup hbody hfield
  · rename_i fields hbody
    obtain ⟨field, hfield, rfl⟩ := List.mem_map.mp h
    exact .event hlookup hbody hfield
  · rename_i payload hbody
    obtain rfl := List.mem_singleton.mp h
    exact .handle hlookup hbody
  · exact absurd h List.not_mem_nil

theorem Leads.follows {type part : TypeRef} (h : schema.Leads type part) :
    schema.Follows type part := by
  cases h with
  | item => exact .item
  | field h =>
    obtain ⟨field, hfield, rfl⟩ := List.mem_map.mp h
    exact .field hfield
  | @mention name d type hlookup h =>
    obtain h | h := List.mem_append.mp h
    · exact .member (madeOf_of_mem_children hlookup h)
    · obtain ⟨kind, hkind, rfl⟩ := List.mem_map.mp h
      unfold companions at hkind
      split at hkind
      · rename_i members hbody
        obtain rfl := List.mem_singleton.mp hkind
        exact .kind hlookup hbody
      · exact absurd hkind List.not_mem_nil

theorem Met.of_means {type : TypeRef} {name : String} (h : Means name type) :
    schema.Met type name :=
  ⟨type, .refl, h⟩

theorem Met.of_leads {type part : TypeRef} {name : String} (hleads : schema.Leads type part)
    (h : schema.Met part name) : schema.Met type name := by
  obtain ⟨last, hreaches, hmeans⟩ := h
  exact ⟨last, hreaches.head hleads.follows, hmeans⟩

/-! ### What the search finds -/

/-- A search adds no name that cannot be met from one of its types. -/
theorem met_of_mem_collect {types : List TypeRef} {known : List String} {name : String}
    (h : name ∈ schema.collect types known) :
    name ∈ known ∨ ∃ type ∈ types, schema.Met type name := by
  fun_induction Schema.collect with
  | case1 known => exact .inl h
  | case2 known type rest next ih =>
    obtain hknown | ⟨part, hpart, hmet⟩ := ih h
    · by_cases hold : name ∈ known
      · exact .inl hold
      refine .inr ⟨type, List.mem_cons_self, ?_⟩
      obtain hmeans | hleads := mem_expand hknown hold
      · exact .of_means hmeans
      · exact .of_leads hleads (.of_means .enum)
    · obtain hpart | hpart := List.mem_append.mp hpart
      · exact .inr ⟨type, List.mem_cons_self, .of_leads (leads_of_mem_expand hpart) hmet⟩
      · exact .inr ⟨part, List.mem_cons_of_mem _ hpart, hmet⟩

/-! ### The search as a recursion -/

mutual

/-- The names known with a type and everything that it depends on. -/
inductive Adds (schema : Schema) : TypeRef → List String → List String → Prop
  | scalar {s : Scalar} {known : List String} : Adds schema (.scalar s) known known
  | enum {name : String} {known : List String} :
    Adds schema (.enum name) known (insertName known name)
  | array {item : TypeRef} {known names : List String} :
    Adds schema item known names → Adds schema (.array item) known names
  /-- fields in place with a name that is known -/
  | seenFields {name : String} {fields : List Field} {known : List String} :
    name ∈ known → Adds schema (.anonymous name fields) known known
  | fields {name : String} {fields : List Field} {known names : List String} :
    name ∉ known → AddsAll schema (fieldTypes fields) (known ++ [name]) names →
    Adds schema (.anonymous name fields) known names
  /-- a name that is known -/
  | seen {name : String} {known : List String} :
    name ∈ known → Adds schema (.named name) known known
  /-- a name without a definition -/
  | undefined {name : String} {known : List String} :
    name ∉ known → schema.lookup? name = none →
    Adds schema (.named name) known (known ++ [name])
  | defined {name : String} {d : Definition} {known names : List String} :
    name ∉ known → schema.lookup? name = some d →
    AddsAll schema d.children ((companions d).foldl insertName (known ++ [name])) names →
    Adds schema (.named name) known names

/-- The names known with several types, one after the other. -/
inductive AddsAll (schema : Schema) : List TypeRef → List String → List String → Prop
  | nil {known : List String} : AddsAll schema [] known known
  | cons {type : TypeRef} {rest : List TypeRef} {known middle names : List String} :
    Adds schema type known middle → AddsAll schema rest middle names →
    AddsAll schema (type :: rest) known names

end

theorem AddsAll.of_append {types rest : List TypeRef} {known names : List String}
    (h : schema.AddsAll (types ++ rest) known names) :
    ∃ middle, schema.AddsAll types known middle ∧ schema.AddsAll rest middle names := by
  induction types generalizing known with
  | nil => exact ⟨known, .nil, h⟩
  | cons type more ih =>
    cases h with
    | cons htype hmore =>
      obtain ⟨middle, hleft, hright⟩ := ih hmore
      exact ⟨middle, .cons htype hleft, hright⟩

/-- A type is added by a step and what the step leads to. -/
theorem adds_of_expand {type : TypeRef} {known names : List String}
    (h : schema.AddsAll (schema.expand type known).1 (schema.expand type known).2 names) :
    schema.Adds type known names := by
  cases type with
  | scalar s =>
    cases h with
    | nil => exact .scalar
  | enum name =>
    cases h with
    | nil => exact .enum
  | array item =>
    cases h with
    | cons hitem hnil =>
      cases hnil with
      | nil => exact .array hitem
  | anonymous name fields =>
    by_cases hold : name ∈ known
    · simp only [expand, List.contains_iff_mem, hold, if_true] at h
      cases h with
      | nil => exact .seenFields hold
    · simp only [expand, List.contains_iff_mem, hold, if_false] at h
      exact .fields hold h
  | named name =>
    by_cases hold : name ∈ known
    · simp only [expand, List.contains_iff_mem, hold, if_true] at h
      cases h with
      | nil => exact .seen hold
    · simp only [expand, List.contains_iff_mem, hold, if_false] at h
      cases hlookup : schema.lookup? name with
      | none =>
        simp only [hlookup] at h
        cases h with
        | nil => exact .undefined hold hlookup
      | some d =>
        simp only [hlookup] at h
        exact .defined hold hlookup h

/-- The search ends: it is one of those that the rules allow. -/
theorem addsAll_collect (schema : Schema) (types : List TypeRef) (known : List String) :
    schema.AddsAll types known (schema.collect types known) := by
  fun_induction Schema.collect with
  | case1 known => exact .nil
  | case2 known type rest next ih =>
    obtain ⟨middle, hbelow, hrest⟩ := ih.of_append
    exact .cons (adds_of_expand hbelow) hrest

mutual

/-- No two rules apply to one type. -/
theorem Adds.unique {type : TypeRef} {known names other : List String}
    (h : schema.Adds type known names) (h' : schema.Adds type known other) : names = other := by
  match h with
  | .scalar =>
    cases h'
    rfl
  | .enum =>
    cases h'
    rfl
  | .array hitem =>
    cases h' with
    | array hother => exact hitem.unique hother
  | .seenFields hold =>
    cases h' with
    | seenFields _ => rfl
    | fields hnew _ => exact absurd hold hnew
  | .fields hnew hfields =>
    cases h' with
    | seenFields hold => exact absurd hold hnew
    | fields _ hother => exact hfields.unique hother
  | .seen hold =>
    cases h' with
    | seen _ => rfl
    | undefined hnew _ => exact absurd hold hnew
    | defined hnew _ _ => exact absurd hold hnew
  | .undefined hnew hnone =>
    cases h' with
    | seen hold => exact absurd hold hnew
    | undefined _ _ => rfl
    | defined _ hsome _ => cases hnone.symm.trans hsome
  | .defined hnew hsome hmembers =>
    cases h' with
    | seen hold => exact absurd hold hnew
    | undefined _ hnone => cases hnone.symm.trans hsome
    | defined _ hsome' hother =>
      obtain rfl := Option.some.inj (hsome.symm.trans hsome')
      exact hmembers.unique hother

theorem AddsAll.unique {types : List TypeRef} {known names other : List String}
    (h : schema.AddsAll types known names) (h' : schema.AddsAll types known other) :
    names = other := by
  match h with
  | .nil =>
    cases h'
    rfl
  | .cons htype hrest =>
    cases h' with
    | cons hother hmore =>
      obtain rfl := htype.unique hother
      exact hrest.unique hmore

end

/-- The search for one type ends, in one way only. -/
theorem adds_iff (schema : Schema) (type : TypeRef) (known names : List String) :
    schema.Adds type known names ↔ names = schema.collect [type] known := by
  have hsearch : schema.Adds type known (schema.collect [type] known) := by
    cases schema.addsAll_collect [type] known with
    | cons htype hnil =>
      cases hnil with
      | nil => exact htype
  exact ⟨fun h => h.unique hsearch, fun h => h ▸ hsearch⟩

/-! ### Where searches start -/

/-- The types whose values cross the wire: parameters and results of commands, fields of events. -/
inductive CrossesWire (schema : Schema) : TypeRef → Prop
  | parameter {d : Definition} {params : Params} {returns : TypeRef} {field : Field}
    (hd : d ∈ schema.definitions) (hbody : d.body = .command params returns)
    (hfield : field ∈ params.toFields) : CrossesWire schema field.type
  | result {d : Definition} {params : Params} {returns : TypeRef} (hd : d ∈ schema.definitions)
    (hbody : d.body = .command params returns) : CrossesWire schema returns
  | event {d : Definition} {fields : List Field} {field : Field} (hd : d ∈ schema.definitions)
    (hbody : d.body = .event fields) (hfield : field ∈ fields) : CrossesWire schema field.type

/-- The types whose values are read from option text. -/
def ReadFromText (schema : Schema) (type : TypeRef) : Prop :=
  ∃ d ∈ schema.definitions, ∃ implicit, d.body = .option (some type) implicit

/-- The names of events. -/
def IsEvent (schema : Schema) (name : String) : Prop :=
  ∃ d ∈ schema.definitions, d.name = name ∧ d.kind = .event

theorem crossesWire_of_mem {d : Definition} {type : TypeRef} (hd : d ∈ schema.definitions)
    (h : type ∈ d.wireTypes) : schema.CrossesWire type := by
  unfold Definition.wireTypes at h
  split at h
  · rename_i params returns hbody
    obtain h | h := List.mem_append.mp h
    · obtain ⟨field, hfield, rfl⟩ := List.mem_map.mp h
      exact .parameter hd hbody hfield
    · obtain rfl := List.mem_singleton.mp h
      exact .result hd hbody
  · rename_i fields hbody
    obtain ⟨field, hfield, rfl⟩ := List.mem_map.mp h
    exact .event hd hbody hfield
  · exact absurd h List.not_mem_nil

/-- A name that belongs on the wire: that of an event, or one that can be met from a type whose
values cross the wire. -/
def BelongsOnWire (schema : Schema) (name : String) : Prop :=
  schema.IsEvent name ∨ ∃ type, schema.CrossesWire type ∧ schema.Met type name

/-- One more definition adds only names that belong on the wire. -/
theorem belongsOnWire_addWire {d : Definition} (hd : d ∈ schema.definitions) {known : List String}
    (h : ∀ name ∈ known, schema.BelongsOnWire name) :
    ∀ name ∈ schema.addWire known d, schema.BelongsOnWire name := by
  intro name hname
  obtain hstart | ⟨type, htype, hmet⟩ := met_of_mem_collect hname
  · split at hstart
    · rename_i hevent
      obtain hold | rfl := mem_insertName.mp hstart
      · exact h name hold
      · exact .inl ⟨d, hd, rfl, hevent⟩
    · exact h name hstart
  · exact .inr ⟨type, crossesWire_of_mem hd htype, hmet⟩

theorem belongsOnWire_of_mem {name : String} (h : name ∈ schema.reach.wire) :
    schema.BelongsOnWire name := by
  refine List.foldlRecOn (motive := fun known => ∀ name ∈ known, schema.BelongsOnWire name)
    schema.definitions schema.addWire (List.forall_mem_nil _) ?_ name h
  intro known hknown d hd
  exact belongsOnWire_addWire hd hknown

theorem met_of_mem_options {name : String} (h : name ∈ schema.reach.options) :
    ∃ type, schema.ReadFromText type ∧ schema.Met type name := by
  obtain hnil | ⟨type, htype, hmet⟩ := met_of_mem_collect h
  · exact absurd hnil List.not_mem_nil
  · obtain ⟨d, hd, htype⟩ := List.mem_flatMap.mp htype
    exact ⟨type, ⟨d, hd, body_of_optionTypes htype⟩, hmet⟩

theorem met_of_mem_closure {root name : String} (h : name ∈ schema.closure root) :
    ∃ type, schema.MadeOf root type ∧ schema.Met type name := by
  unfold closure at h
  split at h
  · rename_i d hlookup
    obtain hnil | ⟨type, htype, hmet⟩ := met_of_mem_collect h
    · exact absurd hnil List.not_mem_nil
    · exact ⟨type, madeOf_of_mem_children hlookup htype, hmet⟩
  · exact absurd h List.not_mem_nil

/-- Whatever the schema is, recursive or not, the search from a type ends, in one way only, and adds
no name that cannot be met from the type. So only what belongs there is on the wire, only names that
can be met from the type of an option come from option text, and a definition depends only on names
that can be met from its members: on its own name, only if a member leads back to it. -/
theorem reach_pruned (schema : Schema) :
    (∀ type known, (∀ names, schema.Adds type known names ↔ names = schema.collect [type] known) ∧
      ∀ name ∈ schema.collect [type] known, name ∉ known → schema.Met type name) ∧
    (∀ name ∈ schema.reach.wire, schema.BelongsOnWire name) ∧
    (∀ name ∈ schema.reach.options, ∃ type, schema.ReadFromText type ∧ schema.Met type name) ∧
    ∀ root, ∀ name ∈ schema.closure root,
      ∃ type, schema.MadeOf root type ∧ schema.Met type name := by
  refine ⟨fun type known => ⟨schema.adds_iff type known, fun name hname hnew => ?_⟩,
    fun name => belongsOnWire_of_mem, fun name => met_of_mem_options,
    fun root name => met_of_mem_closure⟩
  obtain ⟨_, hmem, hmet⟩ := (met_of_mem_collect hname).resolve_left hnew
  rwa [List.mem_singleton.mp hmem] at hmet

end RpcSchema.Schema
