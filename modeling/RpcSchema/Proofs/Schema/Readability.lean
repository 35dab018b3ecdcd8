import RpcSchema.Proofs.Schema.Search
import RpcSchema.Proofs.Schema.Verified
import RpcSchema.Schema.Readable

/-!
# What option text can express

The verifier searches below the type of an option for a name that option text cannot express. The
search looks into each struct once, so what it says of a type depends on what was visited before.
The names that it has visited at its end say it once for all: every type it was given has only such
names inside it, and so has every field of their structs. Nothing leads out of a set like that.

## Main definitions

* `Schema.Expressible` — a type that is no list and no fields in place is a scalar, enum or struct
* `Schema.Settled` — a type inside which all names are structs of a given set

## Main results

* `firstUnreadable?_settled` — the set that a search leaves
* `expressible_of_reaches` — everything below the type of an option can be expressed
-/

namespace RpcSchema.Schema

variable {schema : Schema}

/-- A type that option text can express, apart from what it leads to: a name is that of a struct. -/
def Expressible (schema : Schema) : TypeRef → Prop
  | .named name => ∃ d, schema.lookup? name = some d ∧ d.kind = .struct
  | _ => True

/-- A type inside which all names are structs among the given names. -/
def Settled (schema : Schema) (names : List String) (type : TypeRef) : Prop :=
  ∀ name, OccursIn (.named name) type →
    name ∈ names ∧ ∃ d, schema.lookup? name = some d ∧ d.kind = .struct

/-- A struct whose fields are settled. -/
def Opened (schema : Schema) (names : List String) (name : String) : Prop :=
  ∀ d, schema.lookup? name = some d → ∀ type ∈ d.mentions, schema.Settled names type

/-! ### One step -/

theorem mentions_struct {d : Definition} {fields : List Field} (h : d.body = .struct fields) :
    d.mentions = fieldTypes fields := by
  rw [Definition.mentions, Definition.children, companions, h, List.map_nil, List.append_nil]

/-- A step on a name finds a struct, and goes to its fields if it is new. -/
theorem readStep_named {name : String} {visited more : List String} {types : List TypeRef}
    (h : schema.readStep (.named name) visited = .ok (types, more)) :
    ∃ d, schema.lookup? name = some d ∧ d.kind = .struct ∧
      (name ∈ visited ∧ more = visited ∨ more = visited ++ [name] ∧ types = d.mentions) := by
  simp only [readStep] at h
  split at h
  · cases h
  rename_i d hlookup
  split at h
  · rename_i fields hbody
    have hkind : d.kind = .struct := by rw [Definition.kind, hbody]; rfl
    refine ⟨d, hlookup, hkind, ?_⟩
    split at h
    · rename_i hvisited
      cases h
      exact .inl ⟨by simpa using hvisited, rfl⟩
    · cases h
      exact .inr ⟨rfl, (mentions_struct hbody).symm⟩
  · cases h

/-- A type is settled when what a step on it goes to is. -/
theorem settled_of_readStep {type : TypeRef} {visited more names : List String}
    {types : List TypeRef} (h : schema.readStep type visited = .ok (types, more))
    (hmore : more ⊆ names) (htypes : ∀ part ∈ types, schema.Settled names part) :
    schema.Settled names type := by
  intro name hname
  cases type with
  | scalar s => cases hname
  | enum enum => cases hname
  | array item =>
    cases h
    cases hname with
    | item hname => exact htypes item List.mem_cons_self name hname
  | anonymous made fields =>
    cases h
    cases hname with
    | field hfield hname => exact htypes _ (List.mem_map_of_mem hfield) name hname
  | named named =>
    cases hname with
    | self =>
      obtain ⟨d, hlookup, hkind, ⟨hvisited, rfl⟩ | ⟨rfl, -⟩⟩ := readStep_named h
      · exact ⟨hmore hvisited, d, hlookup, hkind⟩
      · exact ⟨hmore (List.mem_append_right _ (List.mem_singleton.mpr rfl)), d, hlookup, hkind⟩

/-- A step visits a new name only to go to the fields of its struct. -/
theorem opened_of_readStep {type : TypeRef} {visited more names : List String}
    {types : List TypeRef} (h : schema.readStep type visited = .ok (types, more))
    (htypes : ∀ part ∈ types, schema.Settled names part) {name : String} (hname : name ∈ more)
    (hnew : name ∉ visited) : schema.Opened names name := by
  cases type with
  | scalar s => cases h; exact absurd hname hnew
  | enum enum => cases h; exact absurd hname hnew
  | array item => cases h; exact absurd hname hnew
  | anonymous made fields => cases h; exact absurd hname hnew
  | named named =>
    obtain ⟨d, hlookup, -, ⟨-, rfl⟩ | ⟨rfl, rfl⟩⟩ := readStep_named h
    · exact absurd hname hnew
    obtain rfl := List.mem_singleton.mp ((List.mem_append.mp hname).resolve_left hnew)
    intro e he part hpart
    obtain rfl := Option.some.inj (hlookup.symm.trans he)
    exact htypes part hpart

theorem subset_readStep {type : TypeRef} {visited more : List String} {types : List TypeRef}
    (h : schema.readStep type visited = .ok (types, more)) : visited ⊆ more := by
  cases type with
  | named name =>
    obtain ⟨d, -, -, ⟨-, rfl⟩ | ⟨rfl, -⟩⟩ := readStep_named h
    · exact List.Subset.refl _
    · exact List.subset_append_left _ _
  | _ => cases h; exact List.Subset.refl _

/-! ### Whole searches -/

/-- A search that finds nothing wrong leaves a set of names with which its types are settled, and
whose structs it has gone into itself. -/
theorem firstUnreadable?_settled {types : List TypeRef} {visited : List String}
    (h : schema.firstUnreadable? types visited = none) :
    ∃ names, visited ⊆ names ∧ (∀ type ∈ types, schema.Settled names type) ∧
      ∀ name ∈ names, name ∈ visited ∨ schema.Opened names name := by
  fun_induction firstUnreadable? with
  | case1 visited => exact ⟨visited, List.Subset.refl _, nofun, fun _ => .inl⟩
  | case2 visited type rest unreadable _ => cases h
  | case3 visited type rest types more hstep ih =>
    obtain ⟨names, hmore, hsettled, hopened⟩ := ih h
    rw [List.forall_mem_append] at hsettled
    refine ⟨names, fun name hname => hmore (subset_readStep hstep hname), ?_, ?_⟩
    · exact List.forall_mem_cons.mpr ⟨settled_of_readStep hstep hmore hsettled.1, hsettled.2⟩
    · intro name hname
      by_cases hvisited : name ∈ visited
      · exact .inl hvisited
      rcases hopened name hname with hname | hname
      · exact .inr (opened_of_readStep hstep hsettled.1 hname hvisited)
      · exact .inr hname

/-- Nothing leads out of a set of names whose structs are settled with it. -/
theorem Settled.of_leads {names : List String} (hopened : ∀ name ∈ names, schema.Opened names name)
    {type part : TypeRef} (h : schema.Settled names type) (hleads : schema.Leads type part) :
    schema.Settled names part := by
  cases hleads with
  | item => exact fun name hname => h name (.item hname)
  | field hpart =>
    obtain ⟨field, hfield, rfl⟩ := List.mem_map.mp hpart
    exact fun name hname => h name (.field hfield hname)
  | mention hlookup hpart => exact hopened _ (h _ .self).1 _ hlookup _ hpart

theorem Settled.expressible {names : List String} {type : TypeRef}
    (h : schema.Settled names type) : schema.Expressible type := by
  cases type with
  | named name => exact (h name .self).2
  | _ => trivial

/-- Everything below the type of an option can be expressed. -/
theorem expressible_of_reaches {type part : TypeRef}
    (h : schema.firstUnreadable? [type] [] = none) (hreaches : schema.Reaches type part) :
    schema.Expressible part := by
  obtain ⟨names, -, hsettled, hopened⟩ := firstUnreadable?_settled h
  have hclosed : ∀ name ∈ names, schema.Opened names name :=
    fun name hname => (hopened name hname).resolve_left List.not_mem_nil
  have hpart : schema.Settled names part := by
    induction hreaches with
    | refl => exact hsettled type List.mem_cons_self
    | tail _ hleads ih => exact ih.of_leads hclosed hleads
  exact hpart.expressible

end RpcSchema.Schema
