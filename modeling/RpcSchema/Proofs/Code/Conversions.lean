import RpcSchema.Code.OptionItems
import RpcSchema.Code.WireItems
import RpcSchema.Proofs.Schema.Boundary
import RpcSchema.Proofs.Schema.DistinctNames

/-!
# Conversions call conversions that exist

The conversions of a type call those of the types that it is made of. They are emitted by name: for
each definition and each set of fields in place whose name crosses the boundary. So the emitted
code can stand by itself only if the names that cross it are closed.

They are closed unless two things share a name. The name of a definition is as written, and fields
in place have made names, such as `FooBar` for the field `bar` of `Foo`; the types declared for the
two differ, so both may stand in one schema. But the search takes a known name for one that it has
looked behind. Of two things with one name it looks only behind the one that it meets first, and
the conversions of both are emitted.

## Main definitions

* `Side` — the two boundaries, with the names that cross each and the conversions emitted for them
* `Supplied` — a type whose conversions are emitted
* `DefinitionClosed`, `AggregateClosed`, `SelfContained` — conversions that call only emitted ones

## Main results

* `closed_or_closed` — under every name that crosses, one of the two is closed
* `selfContained_iff` — all is closed exactly if shared names are
-/

namespace RpcSchema.Code

open RpcSchema.Schema

/-! ### Both boundaries -/

/-- The boundaries that values cross. -/
inductive Side
  | wire
  | options

/-- The names of the types whose values cross. -/
def Side.names (side : Side) (reach : Reach) : List String :=
  match side with
  | .wire => reach.wire
  | .options => reach.options

/-- The conversions of a definition's own type. -/
def Side.ownItems (side : Side) (c : Context) (d : Definition) : List Item :=
  match side with
  | .wire => ownWireItems c d
  | .options => ownReadItems c d

/-- The conversions of fields in place. -/
def Side.aggregateItems (side : Side) (c : Context) (a : Aggregate) : List Item :=
  match side with
  | .wire => objectWireItems c a.name a.fields
  | .options => [structReadItem c a.name a.fields]

/-- The conversions of a definition, as far as its types cross. -/
def Side.definitionItems (side : Side) (c : Context) (d : Definition) : List Item :=
  match side with
  | .wire => definitionWireItems c d
  | .options => definitionReadItems c d

/-- Everything that is emitted. -/
def Side.items (side : Side) (c : Context) : List Item :=
  match side with
  | .wire => wireItems c
  | .options => optionItems c

/-- A type that the search of a side may meet. -/
def Side.Met (side : Side) (schema : Schema) (type : TypeRef) : Prop :=
  match side with
  | .wire => schema.Meant type
  | .options => schema.Optional type

variable {c : Context} {side : Side}

theorem Side.accounted (side : Side) {schema : Schema} (hc : schema.Classified)
    (hv : schema.verify = .ok ()) :
    schema.Accounted (side.Met schema) [] (side.names schema.reach) := by
  cases side with
  | wire => exact accounted_wire hc hv
  | options => exact accounted_options hc hv

theorem Side.Met.meant {schema : Schema} {type : TypeRef} (h : side.Met schema type) :
    schema.Meant type := by
  cases side with
  | wire => exact h
  | options => exact h.1

theorem Side.Met.of_leads {schema : Schema} (hc : schema.Classified) (hv : schema.verify = .ok ())
    {type part : TypeRef} (h : side.Met schema type) (hleads : schema.Leads type part) :
    side.Met schema part := by
  cases side with
  | wire => exact Meant.of_leads hc hv h hleads
  | options => exact Optional.of_leads hc hv h hleads

/-! ### Emission -/

theorem isType_of_ownItems {d : Definition} (h : side.ownItems c d ≠ []) : d.isType := by
  obtain ⟨name, line, body⟩ := d
  cases side <;> cases body <;> first | rfl | exact absurd rfl h

theorem definitionItems_eq (side : Side) (c : Context) (d : Definition) :
    side.definitionItems c d =
      ((d.aggregates.filter fun a => (side.names c.reach).contains a.name).flatMap
        (side.aggregateItems c)) ++
      if (side.names c.reach).contains d.name then side.ownItems c d else [] := by
  cases side with
  | wire => rfl
  | options => rw [Side.definitionItems, definitionReadItems, List.map_eq_flatMap]; rfl

theorem definitionItems_subset {d : Definition} (hd : d ∈ c.schema.definitions) :
    side.definitionItems c d ⊆ side.items c := by
  intro item hitem
  cases side with
  | wire => exact List.mem_flatMap.mpr ⟨d, hd, hitem⟩
  | options =>
    have hread : item ∈ c.schema.definitions.flatMap (definitionReadItems c) :=
      List.mem_flatMap.mpr ⟨d, hd, hitem⟩
    exact List.mem_append_left _ (List.mem_append_left _ hread)

theorem ownItems_subset {d : Definition} (hd : d ∈ c.schema.definitions)
    (hname : d.name ∈ side.names c.reach) : side.ownItems c d ⊆ side.items c := by
  intro item hitem
  refine definitionItems_subset hd ?_
  rw [definitionItems_eq, if_pos (List.contains_iff_mem.mpr hname)]
  exact List.mem_append_right _ hitem

theorem aggregateItems_subset {a : Aggregate} (ha : a ∈ c.schema.aggregates)
    (hname : a.name ∈ side.names c.reach) : side.aggregateItems c a ⊆ side.items c := by
  obtain ⟨d, hd, ha⟩ := List.mem_flatMap.mp ha
  intro item hitem
  refine definitionItems_subset hd ?_
  rw [definitionItems_eq]
  refine List.mem_append_left _ (List.mem_flatMap.mpr ⟨a, ?_, hitem⟩)
  exact List.mem_filter.mpr ⟨ha, List.contains_iff_mem.mpr hname⟩

/-- Whatever a side meets under a name has conversions there. -/
theorem ownItems_ne_nil_of_enum {d : Definition} (h : d.kind = .enum) : side.ownItems c d ≠ [] := by
  obtain ⟨name, line, body⟩ := d
  cases body <;> cases h
  cases side <;> exact List.cons_ne_nil _ _

theorem ownItems_ne_nil_of_named {name : String} (h : side.Met c.schema (.named name))
    {d : Definition} (hlookup : c.schema.lookup? name = some d) : side.ownItems c d ≠ [] := by
  have ht := (lookup?_some hlookup).2.1
  obtain ⟨dname, line, body⟩ := d
  cases side with
  | wire =>
    cases body with
    | struct fields | event fields =>
      simp only [Side.ownItems, ownWireItems, objectWireItems]
      split <;> exact List.cons_ne_nil _ _
    | command params returns | option type implicit => cases ht
    | _ => exact List.cons_ne_nil _ _
  | options =>
    obtain ⟨e, he, hkind⟩ := h.2 _ .refl
    obtain rfl := Option.some.inj (hlookup.symm.trans he)
    cases body <;> cases hkind
    exact List.cons_ne_nil _ _

/-! ### Supply -/

/-- A type whose conversions are emitted: its name crosses and leads to them. A list has those of
its items, and a scalar needs none. -/
def Supplied (c : Context) (side : Side) : TypeRef → Prop
  | .scalar _ => True
  | .enum name | .named name => name ∈ side.names c.reach ∧ ∃ d, c.schema.lookup? name = some d ∧
      side.ownItems c d ≠ [] ∧ side.ownItems c d ⊆ side.items c
  | .array item => Supplied c side item
  | .anonymous name fields => name ∈ side.names c.reach ∧
      side.aggregateItems c ⟨name, fields⟩ ⊆ side.items c

theorem supplied_of_lookup? {name : String} {d : Definition}
    (hlookup : c.schema.lookup? name = some d) (hitems : side.ownItems c d ≠ [])
    (hname : name ∈ side.names c.reach) :
    name ∈ side.names c.reach ∧ ∃ d, c.schema.lookup? name = some d ∧
      side.ownItems c d ≠ [] ∧ side.ownItems c d ⊆ side.items c := by
  obtain ⟨hd, -, rfl⟩ := lookup?_some hlookup
  exact ⟨hname, d, hlookup, hitems, ownItems_subset hd hname⟩

/-- A type that a side meets has its conversions if its name crosses. -/
theorem supplied_of_known (hc : c.schema.Classified) (hv : c.schema.verify = .ok ())
    {type : TypeRef} (hmet : side.Met c.schema type) (hknown : Known (side.names c.reach) type) :
    Supplied c side type := by
  induction type using TypeRef.induct with
  | scalar s => trivial
  | enum name =>
    obtain ⟨d, hlookup, henum⟩ := hmet.meant
    exact supplied_of_lookup? hlookup (ownItems_ne_nil_of_enum henum) (hknown name rfl)
  | named name =>
    obtain ⟨d, hlookup⟩ := hmet.meant
    exact supplied_of_lookup? hlookup (ownItems_ne_nil_of_named hmet hlookup) (hknown name rfl)
  | array item ih => exact ih (hmet.of_leads hc hv .item) hknown
  | anonymous name fields _ =>
    exact ⟨hknown name rfl, aggregateItems_subset hmet.meant (hknown name rfl)⟩

/-! ### Closure -/

/-- The conversions emitted for the definition of a name call only emitted ones. -/
def DefinitionClosed (c : Context) (side : Side) (name : String) : Prop :=
  ∀ d ∈ c.schema.definitions, d.name = name → side.ownItems c d ≠ [] →
    ∀ type ∈ d.mentions, Supplied c side type

/-- The conversions emitted for the fields in place of a name call only emitted ones. -/
def AggregateClosed (c : Context) (side : Side) (name : String) : Prop :=
  ∀ a ∈ c.schema.aggregates, a.name = name → ∀ type ∈ a.mentions, Supplied c side type

/-- The emitted conversions call only emitted ones. -/
def SelfContained (c : Context) (side : Side) : Prop :=
  ∀ name ∈ side.names c.reach, DefinitionClosed c side name ∧ AggregateClosed c side name

/-- A name that a type and fields in place share. -/
def Shared (schema : Schema) (name : String) : Prop :=
  (∃ d ∈ schema.definitions, d.isType ∧ d.name = name) ∧ ∃ a ∈ schema.aggregates, a.name = name

theorem definitionClosed_of_lookup? (hv : c.schema.verify = .ok ()) {name : String}
    {e : Definition} (hlookup : c.schema.lookup? name = some e)
    (h : ∀ type ∈ e.mentions, Supplied c side type) : DefinitionClosed c side name := by
  obtain ⟨he, het, hname⟩ := lookup?_some hlookup
  intro d hd hdname hitems
  obtain rfl := eq_of_name_eq hv he hd het (isType_of_ownItems hitems) (hname.trans hdname.symm)
  exact h

/-- What the search has looked behind is closed: the definition of a name, or its fields in
place. -/
theorem closed_of_name (hc : c.schema.Classified) (hv : c.schema.verify = .ok ())
    (hreach : c.reach = c.schema.reach) {name : String} (hname : name ∈ side.names c.reach) :
    ((∃ d ∈ c.schema.definitions, d.isType ∧ d.name = name) ∧ DefinitionClosed c side name) ∨
      ((∃ a ∈ c.schema.aggregates, a.name = name) ∧ AggregateClosed c side name) := by
  have hopened := (side.accounted hc hv).opened name (by rwa [← hreach])
  obtain ⟨type, hmet, hmeans, hparts⟩ := hopened
  have hsupplied : ∀ part, c.schema.Leads type part → Supplied c side part := by
    intro part hpart
    refine supplied_of_known hc hv (hmet.of_leads hc hv hpart) ?_
    simpa [ahead, hreach] using hparts part hpart
  cases hmeans with
  | enum =>
    obtain ⟨d, hlookup, henum⟩ := hmet.meant
    refine .inl ⟨⟨d, lookup?_some hlookup⟩, definitionClosed_of_lookup? hv hlookup ?_⟩
    rw [mentions_enum henum]
    exact List.forall_mem_nil _
  | named =>
    obtain ⟨d, hlookup⟩ := hmet.meant
    refine .inl ⟨⟨d, lookup?_some hlookup⟩, definitionClosed_of_lookup? hv hlookup ?_⟩
    exact fun part hpart => hsupplied part (.mention hlookup hpart)
  | anonymous =>
    refine .inr ⟨⟨_, hmet.meant, rfl⟩, fun a ha haname part hpart => ?_⟩
    obtain rfl := aggregate_eq_of_name_eq hv hmet.meant ha haname.symm
    exact hsupplied part (.field hpart)

/-- Of two things with one name at least one is closed. All conversions are closed exactly if both
are, under every shared name that crosses. -/
theorem selfContained_iff {entries : List Entry.Parsed} {schema : Schema}
    (hbuild : build entries = .ok schema) (hverify : schema.verify = .ok ()) (config : Config)
    (side : Side) :
    (∀ name ∈ side.names schema.reach, DefinitionClosed (.of schema config) side name ∨
      AggregateClosed (.of schema config) side name) ∧
    (SelfContained (.of schema config) side ↔ ∀ name ∈ side.names schema.reach,
      Shared schema name → DefinitionClosed (.of schema config) side name ∧
        AggregateClosed (.of schema config) side name) := by
  have hclosed := fun name (hname : name ∈ side.names schema.reach) =>
    closed_of_name (c := .of schema config) (build_classified hbuild) hverify rfl hname
  refine ⟨fun name hname => ?_, fun h name hname _ => h name hname, fun h name hname => ?_⟩
  · exact (hclosed name hname).imp And.right And.right
  by_cases hshared : Shared schema name
  · exact h name hname hshared
  rcases hclosed name hname with ⟨hd, hdefinition⟩ | ⟨ha, haggregate⟩
  · refine ⟨hdefinition, fun a ha haname => ?_⟩
    exact absurd ⟨hd, a, ha, haname⟩ hshared
  · refine ⟨fun d hd hdname hitems => ?_, haggregate⟩
    exact absurd ⟨⟨d, hd, isType_of_ownItems hitems, hdname⟩, ha⟩ hshared

/-- An event and fields in place that share the name `FooBar`. -/
def sharingEntries : List Entry.Parsed :=
  [⟨.map [("type", .string "Leaf"), ("data", .map [("x", .string "int")])], 1⟩,
    ⟨.map [("event", .string "FooBar")], 2⟩,
    ⟨.map [("type", .string "Foo"), ("data", .map [("bar", .map [("leaf", .string "Leaf")])])], 3⟩,
    ⟨.map [("command", .string "get-foo"), ("returns", .string "Foo")], 4⟩]

/-- The schema of `sharingEntries`. -/
def sharing : Schema where
  definitions := [
    ⟨"Leaf", 1, .struct [⟨"x", .scalar .int, false⟩]⟩,
    ⟨"FooBar", 2, .event []⟩,
    ⟨"Foo", 3, .struct
      [⟨"bar", .anonymous "FooBar" [⟨"leaf", .named "Leaf", false⟩], false⟩]⟩,
    ⟨"get-foo", 4, .command (.fields []) (.named "Foo")⟩]

theorem build_sharing : build sharingEntries = .ok sharing := rfl

theorem verify_sharing : sharing.verify = .ok () :=
  verify_eq_ok.mpr ⟨rfl, rfl, rfl, by cbv⟩

theorem wire_sharing : sharing.reach.wire = ["FooBar", "Foo"] :=
  wire_of_within (by decide +kernel : sharing.wireWithin 9 = some _)

theorem selfContained_sharing_iff : build sharingEntries = .ok sharing ∧
    sharing.verify = .ok () ∧ (SelfContained (.of sharing .default) .wire ↔
      ∀ name ∈ sharing.reach.wire, Shared sharing name →
        DefinitionClosed (.of sharing .default) .wire name ∧
          AggregateClosed (.of sharing .default) .wire name) :=
  ⟨build_sharing, verify_sharing,
    (selfContained_iff build_sharing verify_sharing .default .wire).2⟩

/-- The search meets the event first. The fields in place need `Leaf`, which it never meets. -/
theorem not_selfContained : ¬∀ entries schema config side, build entries = .ok schema →
    schema.verify = .ok () → SelfContained (.of schema config) side := by
  intro h
  have hname : "FooBar" ∈ sharing.reach.wire := by rw [wire_sharing]; decide
  have hclosed := h sharingEntries sharing .default .wire build_sharing verify_sharing _ hname
  have hleaf : Supplied (.of sharing .default) .wire (.named "Leaf") :=
    hclosed.2 ⟨"FooBar", [⟨"leaf", .named "Leaf", false⟩]⟩ (List.mem_singleton.mpr rfl) rfl _
      (List.mem_singleton.mpr rfl)
  have hmem : "Leaf" ∈ sharing.reach.wire := hleaf.1
  rw [wire_sharing] at hmem
  exact absurd hmem (by decide)

end RpcSchema.Code
