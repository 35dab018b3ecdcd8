import RpcSchema.Proofs.Schema.Readability
import RpcSchema.Proofs.Schema.Soundness
import RpcSchema.Schema.Reach

/-!
# What crosses a boundary

The names that cross the wire are found by one search after another, one for each command and
event, over a single list of names; those that come from option text by one search over all
options. In a schema that compiles every type met on the way stands for something, so the invariant
of the search holds on both sides.

## Main definitions

* `Schema.Meant` — a type whose name stands for something
* `Schema.Optional` — such a type, with nothing below it that option text cannot express
* `Schema.collectWithin`, `Schema.wireWithin` — searches by plain recursion, over within some steps

## Main results

* `Meant.of_leads` — what is met from a type that stands for something does so too
* `accounted_wire`, `accounted_options` — the invariant on each side
* `collect_of_within`, `wire_of_within` — a search that is over has found what it is to find
-/

namespace RpcSchema.Schema

variable {schema : Schema}

/-! ### Types that stand for something -/

/-- A type whose name stands for something in the schema: an enum, another type or fields in place.
What holds of a list holds of its items. -/
def Meant (schema : Schema) : TypeRef → Prop
  | .scalar _ => True
  | .enum name => ∃ d, schema.lookup? name = some d ∧ d.kind = .enum
  | .named name => ∃ d, schema.lookup? name = some d
  | .array item => schema.Meant item
  | .anonymous name fields => ⟨name, fields⟩ ∈ schema.aggregates

/-- A name that is written has a definition: that of an event where a command returns it, and
otherwise one that the verifier looked up. -/
theorem lookup?_of_writes (hv : schema.verify = .ok ()) {name : String}
    (hw : schema.Writes (.named name)) : ∃ d, schema.lookup? name = some d := by
  obtain ⟨d, hd, type, htype, hpart⟩ := hw
  have hchecks : TypeChecks schema type → ∃ e, schema.lookup? name = some e := by
    intro h
    obtain ⟨e, hlookup, -⟩ := (h.of_occursIn hpart).checked.named
    exact ⟨e, hlookup⟩
  rcases List.mem_append.mp htype with hinput | hresult
  · exact hchecks ((accepted hv hd).inputs type hinput)
  rcases (accepted hv hd).result type (Option.mem_toList.mp hresult) with rfl | hevent | htypes
  · cases hpart
  · obtain ⟨returned, event, rfl, hlookup, -⟩ := returnedEvent?_isSome hevent
    cases hpart
    exact ⟨event, hlookup⟩
  · exact hchecks htypes

theorem meant_of_writes (hc : schema.Classified) (hv : schema.verify = .ok ()) {type : TypeRef}
    (hw : schema.Writes type) : schema.Meant type := by
  induction type using TypeRef.induct with
  | scalar s => trivial
  | enum name => exact hc.lookup?_enum hv hw
  | named name => exact lookup?_of_writes hv hw
  | array item ih => exact ih (hw.of_occursIn (.item .self))
  | anonymous name fields _ => exact mem_aggregates.mpr hw

/-- What a definition is made of is written in the schema, apart from the enum of a union, which is
declared with it. -/
theorem meant_of_mention (hc : schema.Classified) (hv : schema.verify = .ok ()) {d : Definition}
    (hd : d ∈ schema.definitions) (ht : d.isType) {type : TypeRef} (h : type ∈ d.mentions) :
    schema.Meant type := by
  rcases List.mem_append.mp h with h | h
  · rw [Definition.children_eq ht] at h
    exact meant_of_writes hc hv ⟨d, hd, type, h, .self⟩
  obtain ⟨kind, hkind, rfl⟩ := List.mem_map.mp h
  unfold companions at hkind
  split at hkind
  · rename_i members hbody
    obtain rfl := List.mem_singleton.mp hkind
    have hunion : d.kind = .union := by rw [Definition.kind, hbody]; rfl
    obtain ⟨e, he, henum, hname⟩ := hc.kind_declared d hd hunion
    refine ⟨e, ?_, henum⟩
    rw [← hname]
    exact lookup?_of_mem hv he (isType_of_kind_enum henum)
  · cases hkind

theorem Meant.of_leads (hc : schema.Classified) (hv : schema.verify = .ok ()) {type part : TypeRef}
    (h : schema.Meant type) (hleads : schema.Leads type part) : schema.Meant part := by
  cases hleads with
  | item => exact h
  | field hpart =>
    obtain ⟨field, hfield, rfl⟩ := List.mem_map.mp hpart
    exact meant_of_writes hc hv ((mem_aggregates.mp h).of_occursIn (.field hfield .self))
  | mention hlookup hpart =>
    obtain ⟨hd, ht, -⟩ := lookup?_some hlookup
    exact meant_of_mention hc hv hd ht hpart

/-! ### The wire -/

theorem mem_types_of_wireTypes {d : Definition} {type : TypeRef} (h : type ∈ d.wireTypes) :
    type ∈ d.types := by
  obtain ⟨name, line, body⟩ := d
  cases body with
  | command params returns => exact h
  | event fields => exact mem_types_of_input h
  | _ => cases h

theorem mentions_enum {d : Definition} (h : d.kind = .enum) : d.mentions = [] := by
  obtain ⟨name, line, body⟩ := d
  cases body <;> cases h
  rfl

/-- The payload of an event is made of the types that cross the wire for it. -/
theorem mentions_event {d : Definition} (h : d.kind = .event) : d.mentions = d.wireTypes := by
  obtain ⟨name, line, body⟩ := d
  cases body with
  | event fields =>
    simp [Definition.mentions, Definition.children, companions, Definition.wireTypes]
  | _ => cases h

/-- A definition's turn: the search starts from its types, with its own name if it is an event. -/
theorem Accounted.addWire (hc : schema.Classified) (hv : schema.verify = .ok ())
    {known : List String} (h : schema.Accounted schema.Meant [] known) {d : Definition}
    (hd : d ∈ schema.definitions) :
    schema.Accounted schema.Meant [] (schema.addWire known d) := by
  refine Accounted.collect (fun _ _ => Meant.of_leads hc hv) ⟨fun type htype => ?_, ?_⟩
  · exact meant_of_writes hc hv ⟨d, hd, type, mem_types_of_wireTypes htype, .self⟩
  have hold : ∀ (names : List String), known ⊆ names → ∀ name ∈ known, ∃ type,
      schema.Meant type ∧ Means name type ∧
        ∀ part, schema.Leads type part → Known (ahead d.wireTypes names) part := by
    intro names hnames name hname
    obtain ⟨type, hmeant, hmeans, hparts⟩ := h.opened name hname
    refine ⟨type, hmeant, hmeans, fun part hpart => ?_⟩
    exact (hparts part hpart).mono (ahead_subset (List.nil_subset _) hnames)
  by_cases hevent : d.kind = .event
  · rw [if_pos hevent]
    intro name hname
    rcases mem_insertName.mp hname with hname | rfl
    · exact hold _ (fun _ hother => mem_insertName.mpr (.inl hother)) name hname
    have ht : d.isType := by rw [Definition.isType, hevent]; rfl
    refine ⟨.named d.name, ⟨d, lookup?_of_mem hv hd ht⟩, .named, ?_⟩
    intro part hpart
    cases hpart with
    | mention hlookup hpart =>
      obtain rfl := Option.some.inj ((lookup?_of_mem hv hd ht).symm.trans hlookup)
      rw [mentions_event hevent] at hpart
      exact known_ahead hpart
  · rw [if_neg hevent]
    exact hold known (List.Subset.refl _)

/-- Every name on the wire belongs to a type that stands for something and leads only to names on
the wire. -/
theorem accounted_wire (hc : schema.Classified) (hv : schema.verify = .ok ()) :
    schema.Accounted schema.Meant [] schema.reach.wire := by
  have hfold : ∀ ds ⊆ schema.definitions, ∀ known, schema.Accounted schema.Meant [] known →
      schema.Accounted schema.Meant [] (ds.foldl schema.addWire known) := by
    intro ds hds
    induction ds with
    | nil => exact fun known h => h
    | cons d rest ih =>
      intro known h
      obtain ⟨hd, hrest⟩ := List.cons_subset.mp hds
      exact ih hrest _ (h.addWire hc hv hd)
  exact hfold _ (List.Subset.refl _) [] ⟨nofun, nofun⟩

/-! ### Options -/

/-- A type that stands for something, with nothing below it that option text cannot express. -/
def Optional (schema : Schema) (type : TypeRef) : Prop :=
  schema.Meant type ∧ ∀ part, schema.Reaches type part → schema.Expressible part

theorem Optional.of_leads (hc : schema.Classified) (hv : schema.verify = .ok ())
    {type part : TypeRef} (h : schema.Optional type) (hleads : schema.Leads type part) :
    schema.Optional part :=
  ⟨h.1.of_leads hc hv hleads, fun below hbelow => h.2 below (.head hleads hbelow)⟩

theorem body_of_optionTypes {d : Definition} {type : TypeRef} (h : type ∈ d.optionTypes) :
    ∃ implicit, d.body = .option (some type) implicit := by
  unfold Definition.optionTypes at h
  split at h
  · rename_i whole implicit hbody
    obtain rfl := List.mem_singleton.mp h
    exact ⟨implicit, hbody⟩
  · cases h

theorem optional_of_optionTypes (hc : schema.Classified) (hv : schema.verify = .ok ())
    {d : Definition} (hd : d ∈ schema.definitions) {type : TypeRef} (h : type ∈ d.optionTypes) :
    schema.Optional type := by
  obtain ⟨implicit, hbody⟩ := body_of_optionTypes h
  have hinput : type ∈ d.inputTypes := by simp [Definition.inputTypes, hbody]
  refine ⟨meant_of_writes hc hv ⟨d, hd, type, mem_types_of_input hinput, .self⟩, fun part => ?_⟩
  exact expressible_of_reaches ((accepted hv hd).readable type implicit hbody)

/-- Every name that comes from option text belongs to a type that option text can express and that
leads only to such names. -/
theorem accounted_options (hc : schema.Classified) (hv : schema.verify = .ok ()) :
    schema.Accounted schema.Optional [] schema.reach.options := by
  refine Accounted.collect (fun _ _ => Optional.of_leads hc hv) ⟨fun type htype => ?_, nofun⟩
  obtain ⟨d, hd, htype⟩ := List.mem_flatMap.mp htype
  exact optional_of_optionTypes hc hv hd htype

/-! ### Counted searches -/

/-- What is known after a search, if it is over within some steps. -/
def collectWithin (schema : Schema) : Nat → List TypeRef → List String → Option (List String)
  | _, [], known => some known
  | 0, _ :: _, _ => none
  | steps + 1, type :: rest, known =>
    let next := schema.expand type known
    schema.collectWithin steps (next.1 ++ rest) next.2

/-- The names on the wire, if each search for them is over within some steps. -/
def wireWithin (schema : Schema) (steps : Nat) : Option (List String) :=
  schema.definitions.foldlM (fun wire d => schema.collectWithin steps d.wireTypes
    (if d.kind = .event then insertName wire d.name else wire)) []

variable {steps : Nat} {names : List String}

theorem collect_of_within {types : List TypeRef} {known : List String}
    (h : schema.collectWithin steps types known = some names) :
    schema.collect types known = names := by
  induction steps generalizing types known with
  | zero =>
    cases types with
    | nil =>
      cases h
      rw [collect]
    | cons type rest => cases h
  | succ steps ih =>
    cases types with
    | nil =>
      cases h
      rw [collect]
    | cons type rest =>
      rw [collect]
      exact ih h

theorem wire_of_within (h : schema.wireWithin steps = some names) : schema.reach.wire = names := by
  rw [wireWithin] at h
  show schema.definitions.foldl schema.addWire [] = names
  generalize ([] : List String) = wire at h ⊢
  generalize schema.definitions = definitions at h ⊢
  induction definitions generalizing wire with
  | nil => exact Option.some.inj h
  | cons d rest ih =>
    rw [List.foldlM_cons] at h
    obtain ⟨more, hmore, h⟩ := Option.bind_eq_some_iff.mp h
    rw [List.foldl_cons, addWire, collect_of_within hmore]
    exact ih more h

end RpcSchema.Schema
