import RpcSchema.Schema.Basic

/-!
# Recursive nesting

A struct, union or handle must not contain itself, because its values would have no end. Only a
list breaks the nesting, since it may be empty. The check goes depth first from every definition,
with the names it is inside of at the moment and the names it has finished.

## Main definitions

* `directNames` — the names that a type contains other than through a list
* `Schema.contained?` — what the struct, union or handle of a name contains
* `Schema.descend` — the search below one name
* `Schema.recursive?` — a name found inside itself
-/

namespace RpcSchema

mutual

/-- The names that a type contains, fields in place opened and lists left closed. -/
def directNames : TypeRef → List String
  | .named name => [name]
  | .anonymous _ fields => directFieldNames fields
  | _ => []

/-- The names that the types of some fields contain. -/
def directFieldNames : List (FieldOf TypeRef) → List String
  | [] => []
  | field :: rest => directNames field.type ++ directFieldNames rest

end

namespace Schema

/-- The names that the struct, union or handle of a name contains; other names contain nothing
and are not looked into. -/
def contained? (schema : Schema) (name : String) : Option (List String) :=
  match schema.lookup? name with
  | some ⟨_, _, .struct fields⟩ => some (directFieldNames fields)
  | some ⟨_, _, .union members⟩ => some (directFieldNames members)
  | some ⟨_, _, .handle payload⟩ => some (directNames payload)
  | _ => none

mutual

/-- The search below a name, from inside the names `path` and with the names `done` finished:
the names finished after it, or the first name found inside itself. Each level of `depth` goes
inside one more name of the schema. -/
def descend (schema : Schema) (depth : Nat) (path done : List String) (name : String) :
    Except String (List String) :=
  match schema.contained? name with
  | none => .ok done
  | some names =>
    if path.contains name then .error name
    else if done.contains name then .ok done
    else
      match depth with
      | 0 => .ok done
      | depth + 1 => do return name :: (← descendAll schema depth (name :: path) done names)
termination_by (depth, 0)

/-- The search below several names, one after the other. -/
def descendAll (schema : Schema) (depth : Nat) (path done : List String) :
    List String → Except String (List String)
  | [] => .ok done
  | name :: rest => do descendAll schema depth path (← descend schema depth path done name) rest
termination_by names => (depth, names.length + 1)

end

/-- A struct, union or handle that contains itself other than through a list. The path holds
distinct names of definitions, so their number bounds the depth. -/
def recursive? (schema : Schema) : Option String :=
  match schema.descendAll schema.definitions.length [] [] (schema.definitions.map (·.name)) with
  | .ok _ => none
  | .error name => some name

end Schema

end RpcSchema
