import Mathlib.Logic.Relation
import RpcSchema.Proofs.Schema.Types

/-!
# What the search for dependencies finds

The search keeps the names that it knows and the types it has yet to look at, and it looks behind a
name only once. So a known name does not say that everything it ever stands for has been looked
at: it says that one type of that name has been, the one that was met first. This is the invariant,
`Accounted`. While the search runs, what such a type leads to is known or still pending; at the end
it is known.

## Main definitions

* `TypeRef.name?`, `Means` — the name that a type is known by
* `Definition.mentions`, `Aggregate.mentions` — the types that a definition is directly made of
* `Schema.Leads`, `Schema.Reaches` — the types one step or any number of steps away
* `Schema.Accounted` — the invariant of the search

## Main results

* `Accounted.expand` — one step of the search keeps the invariant
* `Accounted.collect` — so does a whole search, which leaves nothing pending
-/

namespace RpcSchema

/-! ### Names and steps -/

/-- The name that a type is known by. A list has that of its items, a scalar has none. -/
def TypeRef.name? : TypeRef → Option String
  | .scalar _ => none
  | .enum name => some name
  | .named name => some name
  | .array item => item.name?
  | .anonymous name _ => some name

/-- A type that is written with a name of its own. -/
inductive Means (name : String) : TypeRef → Prop
  | enum : Means name (.enum name)
  | named : Means name (.named name)
  | anonymous {fields : List Field} : Means name (.anonymous name fields)

/-- The types that a definition is directly made of, the enum of a union's members included. -/
def Definition.mentions (d : Definition) : List TypeRef :=
  d.children ++ (Schema.companions d).map .enum

/-- The types that fields in place are directly made of. -/
def Aggregate.mentions (a : Aggregate) : List TypeRef := fieldTypes a.fields

namespace Schema

/-- A type is one step away from another: an item of a list, a field in place, or what the
definition of a name is made of. -/
inductive Leads (schema : Schema) : TypeRef → TypeRef → Prop
  | item {type : TypeRef} : Leads schema (.array type) type
  | field {name : String} {fields : List Field} {type : TypeRef} :
    type ∈ fieldTypes fields → Leads schema (.anonymous name fields) type
  | mention {name : String} {d : Definition} {type : TypeRef} :
    schema.lookup? name = some d → type ∈ d.mentions → Leads schema (.named name) type

/-- A type is any number of steps away from another. -/
def Reaches (schema : Schema) : TypeRef → TypeRef → Prop := Relation.ReflTransGen schema.Leads

/-- A type without a name, or with one among the given names. -/
def Known (names : List String) (type : TypeRef) : Prop := ∀ name ∈ type.name?, name ∈ names

theorem Known.mono {names more : List String} (h : names ⊆ more) {type : TypeRef}
    (hk : Known names type) : Known more type :=
  fun name hname => h (hk name hname)

/-- The names that a search knows or is about to know. -/
def ahead (pending : List TypeRef) (known : List String) : List String :=
  known ++ pending.filterMap TypeRef.name?

theorem mem_ahead {pending : List TypeRef} {known : List String} {name : String} :
    name ∈ ahead pending known ↔ name ∈ known ∨ ∃ type ∈ pending, type.name? = some name := by
  rw [ahead, List.mem_append, List.mem_filterMap]

theorem ahead_subset {pending more : List TypeRef} {known names : List String}
    (hpending : pending ⊆ more) (hknown : known ⊆ names) :
    ahead pending known ⊆ ahead more names := by
  intro name h
  rcases mem_ahead.mp h with h | ⟨type, htype, hname⟩
  · exact mem_ahead.mpr (.inl (hknown h))
  · exact mem_ahead.mpr (.inr ⟨type, hpending htype, hname⟩)

theorem known_ahead {pending : List TypeRef} {known : List String} {type : TypeRef}
    (h : type ∈ pending) : Known (ahead pending known) type :=
  fun _ hname => mem_ahead.mpr (.inr ⟨type, h, hname⟩)

/-! ### One step -/

variable {schema : Schema}

/-- A step on a new name knows that name after it. -/
theorem mem_expand_named (schema : Schema) (name : String) (known : List String) :
    name ∈ (schema.expand (.named name) known).2 := by
  simp only [expand]
  split
  · simp_all
  split
  · exact List.mem_append_right _ (List.mem_singleton.mpr rfl)
  · refine mem_foldl_insertName.mpr (.inl ?_)
    exact List.mem_append_right _ (List.mem_singleton.mpr rfl)

/-- A step gets to know the name of its type, at the latest from the item of a list. -/
theorem known_expand (schema : Schema) (type : TypeRef) (known : List String) :
    Known (ahead (schema.expand type known).1 (schema.expand type known).2) type := by
  intro name hname
  cases type with
  | scalar s => cases hname
  | enum enum =>
    cases hname
    exact mem_ahead.mpr (.inl (mem_insertName.mpr (.inr rfl)))
  | array item => exact known_ahead (List.mem_singleton.mpr rfl) name hname
  | anonymous made fields =>
    cases hname
    refine mem_ahead.mpr (.inl ?_)
    simp only [expand]
    split
    · simp_all
    · exact List.mem_append_right _ (List.mem_singleton.mpr rfl)
  | named name =>
    cases hname
    exact mem_ahead.mpr (.inl (mem_expand_named schema name known))

/-- What is ahead stays ahead through a step. -/
theorem ahead_subset_expand (schema : Schema) (type : TypeRef) (rest : List TypeRef)
    (known : List String) : ahead (type :: rest) known ⊆
      ahead ((schema.expand type known).1 ++ rest) (schema.expand type known).2 := by
  intro name h
  rcases mem_ahead.mp h with h | ⟨other, hother, hname⟩
  · exact mem_ahead.mpr (.inl (schema.subset_expand type known h))
  rcases List.mem_cons.mp hother with rfl | hother
  · refine ahead_subset ?_ (List.Subset.refl _) (known_expand schema other known name hname)
    exact List.subset_append_left _ _
  · exact mem_ahead.mpr (.inr ⟨other, List.mem_append_right _ hother, hname⟩)

/-- A step only adds types that the given one leads to. -/
theorem leads_of_mem_expand {type part : TypeRef} {known : List String}
    (h : part ∈ (schema.expand type known).1) : schema.Leads type part := by
  cases type with
  | scalar s => cases h
  | enum enum => cases h
  | array item =>
    obtain rfl := List.mem_singleton.mp h
    exact .item
  | anonymous made fields =>
    simp only [expand] at h
    split at h
    · cases h
    · exact .field h
  | named name =>
    simp only [expand] at h
    split at h
    · cases h
    split at h
    · cases h
    · exact .mention ‹_› (List.mem_append_left _ h)

/-- A step only adds the name of the given type and the enums that come with it. -/
theorem mem_expand {type : TypeRef} {known : List String} {name : String}
    (h : name ∈ (schema.expand type known).2) (hnew : name ∉ known) :
    Means name type ∨ schema.Leads type (.enum name) := by
  cases type with
  | scalar s => exact absurd h hnew
  | array item => exact absurd h hnew
  | enum enum =>
    obtain rfl := (mem_insertName.mp h).resolve_left hnew
    exact .inl .enum
  | anonymous made fields =>
    simp only [expand] at h
    split at h
    · exact absurd h hnew
    · obtain rfl := List.mem_singleton.mp ((List.mem_append.mp h).resolve_left hnew)
      exact .inl .anonymous
  | named made =>
    simp only [expand] at h
    split at h
    · exact absurd h hnew
    split at h
    · obtain rfl := List.mem_singleton.mp ((List.mem_append.mp h).resolve_left hnew)
      exact .inl .named
    rename_i d hlookup
    rcases mem_foldl_insertName.mp h with h | h
    · obtain rfl := List.mem_singleton.mp ((List.mem_append.mp h).resolve_left hnew)
      exact .inl .named
    · exact .inr (.mention hlookup (List.mem_append_right _ (List.mem_map_of_mem h)))

/-- A step on a type whose name is new goes to everything that the type leads to. -/
theorem known_of_leads {type part : TypeRef} {known : List String} {name : String}
    (hmeans : Means name type) (hnew : name ∉ known) (h : schema.Leads type part) :
    Known (ahead (schema.expand type known).1 (schema.expand type known).2) part := by
  have hcontains : ¬known.contains name := by simpa using hnew
  cases hmeans with
  | enum => cases h
  | anonymous =>
    cases h with
    | field h =>
      rw [expand, if_neg hcontains]
      exact known_ahead h
  | named =>
    cases h with
    | mention hlookup h =>
      rw [expand, if_neg hcontains, hlookup]
      rcases List.mem_append.mp h with h | h
      · exact known_ahead h
      · obtain ⟨kind, hkind, rfl⟩ := List.mem_map.mp h
        rintro _ ⟨⟩
        exact mem_ahead.mpr (.inl (mem_foldl_insertName.mpr (.inr hkind)))

/-! ### Whole searches -/

/-- The invariant of a search: the pending types are met, and each known name belongs to a type
that was met and leads to nothing but names that are known or ahead. -/
structure Accounted (schema : Schema) (met : TypeRef → Prop) (pending : List TypeRef)
    (known : List String) : Prop where
  met_pending : ∀ type ∈ pending, met type
  opened : ∀ name ∈ known, ∃ type, met type ∧ Means name type ∧
    ∀ part, schema.Leads type part → Known (ahead pending known) part

variable {met : TypeRef → Prop}

theorem Accounted.expand {type : TypeRef} {rest : List TypeRef} {known : List String}
    (hmet : ∀ a b, met a → schema.Leads a b → met b)
    (h : schema.Accounted met (type :: rest) known) :
    schema.Accounted met ((schema.expand type known).1 ++ rest) (schema.expand type known).2 := by
  have htype : met type := h.met_pending type List.mem_cons_self
  constructor
  · intro part hpart
    rcases List.mem_append.mp hpart with hpart | hpart
    · exact hmet type part htype (leads_of_mem_expand hpart)
    · exact h.met_pending part (List.mem_cons_of_mem _ hpart)
  · intro name hname
    by_cases hnew : name ∈ known
    · obtain ⟨opened, hopened, hmeans, hparts⟩ := h.opened name hnew
      refine ⟨opened, hopened, hmeans, fun part hpart => ?_⟩
      exact (hparts part hpart).mono (ahead_subset_expand schema type rest known)
    rcases mem_expand hname hnew with hmeans | hleads
    · refine ⟨type, htype, hmeans, fun part hpart => ?_⟩
      refine (known_of_leads hmeans hnew hpart).mono (ahead_subset ?_ (List.Subset.refl _))
      exact List.subset_append_left _ _
    · exact ⟨.enum name, hmet type _ htype hleads, .enum, nofun⟩

/-- A search leaves nothing pending, so at its end what an accounted name leads to is known. -/
theorem Accounted.collect {types : List TypeRef} {known : List String}
    (hmet : ∀ a b, met a → schema.Leads a b → met b) (h : schema.Accounted met types known) :
    schema.Accounted met [] (schema.collect types known) := by
  fun_induction Schema.collect with
  | case1 known => exact h
  | case2 known type rest next ih => exact ih (h.expand hmet)

end Schema

end RpcSchema
