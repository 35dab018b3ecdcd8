import RpcSchema.Schema.Basic

/-!
# Dependencies of types

Which names a type depends on: the enums, types and fields in place met on the way through list
items, fields, members and payloads, and for a union the enum of its members too. The search goes
depth first over a list of types still to be looked at, and the names found so far say what has
been looked at already. It is shared by several searches: a search adds to the names that an
earlier one left.

The search ends on every schema, also a recursive one. A step either looks into a definition that
no step looked into before, or it makes the list of types smaller.

## Main definitions

* `Definition.children` — the types that a definition is made of
* `expand` — one step: the types to look at next, and the names known after it
* `collect` — the names known after a search
* `Schema.closure` — the names that a definition depends on
-/

namespace RpcSchema

/-- The types that a definition of a type is made of. -/
def Definition.children (d : Definition) : List TypeRef :=
  match d.body with
  | .struct fields => fieldTypes fields
  | .union members => fieldTypes members
  | .event fields => fieldTypes fields
  | .handle payload => [payload]
  | _ => []

namespace Schema

/-! ### One step -/

/-- A list of distinct names with a name in it, at the end if it is new. -/
def insertName (names : List String) (name : String) : List String :=
  if names.contains name then names else names ++ [name]

/-- The names that come with a type: the enum of a union's members. -/
def companions (d : Definition) : List String :=
  match d.body with
  | .union _ => [Naming.kindName d.name]
  | _ => []

/-- One step of the search: the types that the given one leads to, and the names known with it. A
name that is known already leads nowhere. -/
def expand (schema : Schema) (type : TypeRef) (known : List String) :
    List TypeRef × List String :=
  match type with
  | .scalar _ => ([], known)
  | .enum name => ([], insertName known name)
  | .array item => ([item], known)
  | .anonymous name fields =>
    if known.contains name then ([], known) else (fieldTypes fields, known ++ [name])
  | .named name =>
    if known.contains name then ([], known)
    else
      match schema.lookup? name with
      | none => ([], known ++ [name])
      | some d => (d.children, (companions d).foldl insertName (known ++ [name]))

/-! ### The measure -/

mutual

/-- The number of types written in a type, itself included. -/
def weight : TypeRef → Nat
  | .array item => weight item + 1
  | .anonymous _ fields => fieldsWeight fields + 1
  | _ => 1

/-- The number of types written in some fields. -/
def fieldsWeight : List (FieldOf TypeRef) → Nat
  | [] => 0
  | field :: rest => weight field.type + fieldsWeight rest

end

/-- The number of types written in a list of types. -/
def totalWeight : List TypeRef → Nat
  | [] => 0
  | type :: rest => weight type + totalWeight rest

/-- The number of definitions whose name is not known. -/
def unknown (schema : Schema) (known : List String) : Nat :=
  schema.definitions.countP fun d => !known.contains d.name

theorem totalWeight_append (a b : List TypeRef) :
    totalWeight (a ++ b) = totalWeight a + totalWeight b := by
  induction a with
  | nil => simp [totalWeight]
  | cons type rest ih => simp only [List.cons_append, totalWeight, ih, Nat.add_assoc]

theorem totalWeight_fieldTypes (fields : List Field) :
    totalWeight (fieldTypes fields) = fieldsWeight fields := by
  induction fields with
  | nil => rfl
  | cons field rest ih =>
    simp only [fieldTypes] at ih ⊢
    rw [List.map_cons, totalWeight, fieldsWeight, ih]

theorem mem_insertName {names : List String} {name other : String} :
    other ∈ insertName names name ↔ other ∈ names ∨ other = name := by
  unfold insertName
  split
  · rename_i h
    have : name ∈ names := by simpa using h
    constructor
    · exact Or.inl
    · rintro (h | rfl)
      · exact h
      · exact this
  · simp

theorem mem_foldl_insertName {more names : List String} {other : String} :
    other ∈ more.foldl insertName names ↔ other ∈ names ∨ other ∈ more := by
  induction more generalizing names with
  | nil => simp
  | cons name rest ih => simp [ih, mem_insertName, or_assoc]

/-- More known names leave fewer definitions unknown. -/
theorem unknown_le {schema : Schema} {known more : List String} (h : known ⊆ more) :
    schema.unknown more ≤ schema.unknown known := by
  refine List.countP_mono_left fun d _ hd => ?_
  simp only [Bool.not_eq_true', List.contains_eq_mem, decide_eq_false_iff_not] at hd ⊢
  exact fun hk => hd (h hk)

/-- Knowing the name of a definition for the first time leaves fewer definitions unknown. -/
theorem unknown_lt {schema : Schema} {known more : List String} (h : known ⊆ more)
    {d : Definition} (hd : d ∈ schema.definitions) (hn : d.name ∉ known) (hm : d.name ∈ more) :
    schema.unknown more < schema.unknown known := by
  obtain ⟨before, after, hs⟩ := List.append_of_mem hd
  have hb := @unknown_le ⟨before⟩ known more h
  have ha := @unknown_le ⟨after⟩ known more h
  simp only [unknown] at hb ha ⊢
  rw [hs]
  simp only [List.countP_append, List.countP_cons]
  simp [hn, hm]
  simp at hb ha
  omega

/-- A step forgets no name. -/
theorem subset_expand (schema : Schema) (type : TypeRef) (known : List String) :
    known ⊆ (schema.expand type known).2 := by
  intro name h
  unfold expand
  split
  · exact h
  · exact mem_insertName.2 (Or.inl h)
  · exact h
  · split <;> simp [h]
  · split
    · exact h
    · split
      · simp [h]
      · exact mem_foldl_insertName.2 (Or.inl (by simp [h]))

/-- A step looks into a new definition or leads to lighter types. -/
theorem expand_decreases (schema : Schema) (type : TypeRef) (known : List String) :
    schema.unknown (schema.expand type known).2 < schema.unknown known ∨
      totalWeight (schema.expand type known).1 < weight type := by
  cases type with
  | scalar s => right; simp [expand, totalWeight, weight]
  | enum name => right; simp [expand, totalWeight, weight]
  | array item => right; simp [expand, totalWeight, weight]
  | anonymous name fields =>
    right
    simp only [expand]
    split
    · simp [totalWeight, weight]
    · simp [totalWeight_fieldTypes, weight]
  | named name =>
    simp only [expand]
    split
    · right; simp [totalWeight, weight]
    · rename_i hn
      split
      · right; simp [totalWeight, weight]
      · rename_i d hd
        left
        have hname : d.name = name := by
          have := List.find?_some hd
          simp only [Bool.and_eq_true, beq_iff_eq] at this
          exact this.2
        refine unknown_lt (d := d) ?_ (List.mem_of_find?_eq_some hd) ?_ ?_
        · intro x hx
          exact mem_foldl_insertName.2 (Or.inl (by simp [hx]))
        · rw [hname]; simpa using hn
        · rw [hname]; exact mem_foldl_insertName.2 (Or.inl (by simp))

/-! ### The search -/

/-- The names known after a search through the given types, depth first. -/
def collect (schema : Schema) (types : List TypeRef) (known : List String) : List String :=
  match types with
  | [] => known
  | type :: rest =>
    let next := schema.expand type known
    collect schema (next.1 ++ rest) next.2
termination_by (schema.unknown known, totalWeight types)
decreasing_by
  have hle := @unknown_le schema _ _ (schema.subset_expand type known)
  rcases schema.expand_decreases type known with h | h
  · exact Prod.Lex.left _ _ h
  · rcases Nat.lt_or_ge (schema.unknown (schema.expand type known).2) (schema.unknown known) with
      hlt | hge
    · exact Prod.Lex.left _ _ hlt
    · have heq : schema.unknown (schema.expand type known).2 = schema.unknown known := by omega
      rw [heq]
      refine Prod.Lex.right _ ?_
      rw [totalWeight_append]
      rw [totalWeight]
      omega

/-- The names that the definition of a name depends on. The name itself is among them only if it
is met again. -/
def closure (schema : Schema) (name : String) : List String :=
  match schema.lookup? name with
  | some d => schema.collect d.children []
  | none => []

end Schema

end RpcSchema
