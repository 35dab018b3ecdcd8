import RpcSchema.Schema.Dependency

/-!
# Types readable from option text

The text of an option is a list of keys and values. It can express scalars, enums, structs, fields
in place and lists of these, so every name met on the way through an option's type must be a
struct. The search is depth first and looks into each struct once.

## Main definitions

* `Unreadable` — a name that option text cannot express
* `readStep` — one step of the search
* `Schema.firstUnreadable?` — the first such name below some types
-/

namespace RpcSchema

/-- A name that option text cannot express, with what it names if anything. -/
structure Unreadable where
  name : String
  kind : Option Kind
  deriving DecidableEq

namespace Schema

/-- One step of the search: the types that the given one leads to and the structs looked into, or
a name that cannot be read. -/
def readStep (schema : Schema) (type : TypeRef) (visited : List String) :
    Except Unreadable (List TypeRef × List String) :=
  match type with
  | .scalar _ => .ok ([], visited)
  | .enum _ => .ok ([], visited)
  | .array item => .ok ([item], visited)
  | .anonymous _ fields => .ok (fieldTypes fields, visited)
  | .named name =>
    match schema.lookup? name with
    | none => .error ⟨name, none⟩
    | some d =>
      match d.body with
      | .struct fields =>
        if visited.contains name then .ok ([], visited)
        else .ok (fieldTypes fields, visited ++ [name])
      | body => .error ⟨name, some body.kind⟩

/-- A step looks into a new struct or leads to lighter types. -/
theorem readStep_decreases {schema : Schema} {type : TypeRef} {visited more : List String}
    {types : List TypeRef} (h : schema.readStep type visited = .ok (types, more)) :
    schema.unknown more < schema.unknown visited ∨
      (more = visited ∧ totalWeight types < weight type) := by
  cases type with
  | scalar s => simp [readStep] at h; obtain ⟨rfl, rfl⟩ := h; simp [totalWeight, weight]
  | enum name => simp [readStep] at h; obtain ⟨rfl, rfl⟩ := h; simp [totalWeight, weight]
  | array item => simp [readStep] at h; obtain ⟨rfl, rfl⟩ := h; simp [totalWeight, weight]
  | anonymous name fields =>
    simp [readStep] at h
    obtain ⟨rfl, rfl⟩ := h
    simp [totalWeight_fieldTypes, weight]
  | named name =>
    simp only [readStep] at h
    split at h
    · cases h
    · rename_i d hd
      split at h
      · split at h
        · simp at h; obtain ⟨rfl, rfl⟩ := h; simp [totalWeight, weight]
        · rename_i hn
          simp only [Except.ok.injEq, Prod.mk.injEq] at h
          obtain ⟨rfl, rfl⟩ := h
          left
          have hname : d.name = name := by
            have := List.find?_some hd
            simp only [Bool.and_eq_true, beq_iff_eq] at this
            exact this.2
          refine unknown_lt (d := d) (fun x hx => by simp [hx]) (List.mem_of_find?_eq_some hd) ?_ ?_
          · rw [hname]; simpa using hn
          · rw [hname]; simp
      · cases h

/-- The first name below some types that option text cannot express. -/
def firstUnreadable? (schema : Schema) (types : List TypeRef) (visited : List String) :
    Option Unreadable :=
  match types with
  | [] => none
  | type :: rest =>
    match _h : schema.readStep type visited with
    | .error unreadable => some unreadable
    | .ok (more, visited) => firstUnreadable? schema (more ++ rest) visited
termination_by (schema.unknown visited, totalWeight types)
decreasing_by
  rcases readStep_decreases _h with h | ⟨rfl, h⟩
  · exact Prod.Lex.left _ _ h
  · refine Prod.Lex.right _ ?_
    rw [totalWeight_append]
    rw [totalWeight]
    omega

end Schema

end RpcSchema
