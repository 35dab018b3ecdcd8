import Mathlib.Data.List.Perm.Basic
import RpcSchema.Proofs.Rpc.Faithful

/-!
# What reading a member depends on

A member is read by its key. So what is read depends on the value of that key only: neither on
where the member stands nor on what else the object has. Of the value itself it depends only on what
it is read as. Both are said by one hypothesis, that the values of the key in two objects are read
alike, and it is kept when members are reordered, when a member of another key is added, and when a
value is changed for one that is read alike.

A union is the one place where the presence of other members counts: it is fine just if no member
but the active one is there.

## Main definitions

* `Json.Reordered` — the members of an object somewhere inside a value stand in another order
* `Alike` — the values of a key in two objects are read alike

## Main results

* `get?_of_perm`, `get?_append_cons_of_ne`, `map_get?_append_cons` — what keeps a member
* `required_congr`, `optional_congr` — members that are read alike
* `required_eq_ok_iff` — when a member can be read
* `ensureSingleMember_eq` — when a union is fine, and the error if it is not
-/

namespace RpcSchema

open Json (Members)

/-! ### Values of keys -/

theorem get?_append (before after : Members) (key : String) :
    Members.get? (before ++ after) key = (before.get? key).or (after.get? key) := by
  induction before with
  | nil => rfl
  | cons member rest ih =>
    rw [List.cons_append, get?_cons, get?_cons, ih]
    split <;> rfl

/-- A member of another key makes no difference. -/
theorem get?_append_cons_of_ne (before after : Members) {key other : String} (value : Json)
    (h : other ≠ key) :
    Members.get? (before ++ (key, value) :: after) other =
      Members.get? (before ++ after) other := by
  rw [get?_append, get?_append, get?_cons, if_neg h]

/-- A value makes no difference if all that is looked at is the same for another one. -/
theorem map_get?_append_cons {β : Type} (read : Json → β) (before after : Members) {key : String}
    {v w : Json} {other : String} (h : other = key → read v = read w) :
    (Members.get? (before ++ (key, v) :: after) other).map read =
      (Members.get? (before ++ (key, w) :: after) other).map read := by
  rw [get?_append, get?_append, get?_cons, get?_cons]
  by_cases hkey : other = key
  · rw [if_pos hkey, if_pos hkey, Option.map_or, Option.map_or, Option.map_some, Option.map_some,
      h hkey]
  · rw [if_neg hkey, if_neg hkey]

theorem get?_eq_some_iff {members : Members} (hkeys : (members.map (·.1)).Nodup) {key : String}
    {value : Json} : members.get? key = some value ↔ (key, value) ∈ members := by
  induction members with
  | nil => simp [Members.get?]
  | cons member rest ih =>
    obtain ⟨k, v⟩ := member
    rw [List.map_cons, List.nodup_cons] at hkeys
    rw [get?_cons, List.mem_cons, Prod.mk.injEq]
    by_cases hk : key = k
    · subst hk
      have hnot : (key, value) ∉ rest := fun hmem => hkeys.1 (List.mem_map.mpr ⟨_, hmem, rfl⟩)
      rw [if_pos rfl, Option.some.injEq]
      simp [hnot, eq_comm]
    · rw [if_neg hk, ih hkeys.2]
      simp [hk]

/-- The order of members with distinct keys makes no difference. -/
theorem get?_of_perm {members others : Members} (hkeys : (members.map (·.1)).Nodup)
    (h : members.Perm others) (key : String) : members.get? key = others.get? key := by
  have hkeys' : (others.map (·.1)).Nodup := (h.map _).nodup_iff.mp hkeys
  refine Option.ext fun value => ?_
  rw [get?_eq_some_iff hkeys, get?_eq_some_iff hkeys', h.mem_iff]

/-- Two values that differ in the order in which one object inside them has its members. -/
inductive Json.Reordered : Json → Json → Prop
  | here {members others : Members} (hkeys : (members.map (·.1)).Nodup)
    (h : members.Perm others) : Reordered (.object members) (.object others)
  | item {before after : List Json} {v w : Json} (h : Reordered v w) :
    Reordered (.array (before ++ v :: after)) (.array (before ++ w :: after))
  | member {before after : Members} {key : String} {v w : Json} (h : Reordered v w) :
    Reordered (.object (before ++ (key, v) :: after)) (.object (before ++ (key, w) :: after))

/-! ### Reading members -/

/-- An error in either of two steps is seen from the same key. -/
theorem atKey_bind {α β : Type} (key : String) (x : Except RpcError α)
    (f : α → Except RpcError β) :
    RpcError.atKey key (x >>= f) = RpcError.atKey key x >>= fun a => RpcError.atKey key (f a) := by
  cases x <;> rfl

section

variable {α : Type} [Wire α] {members others : Members} {key : String}

theorem required_eq (members : Members) (key : String) : Wire.required α members key =
    match (members.get? key).map (Wire.ofWire (α := α)) with
    | some result => RpcError.atKey key result
    | none => .error (.missingParameter key) := by
  rw [Wire.required]
  cases members.get? key <;> rfl

theorem optional_eq (members : Members) (key : String) : Wire.optional α members key =
    match (members.get? key).map (Wire.ofWire (α := α)) with
    | some result => (RpcError.atKey key result).map some
    | none => .ok none := by
  rw [Wire.optional]
  cases members.get? key <;> rfl

/-- A member that must be there can be read if it is there and its value can be read. -/
theorem required_eq_ok_iff {v : α} : Wire.required α members key = .ok v ↔
    ∃ j, members.get? key = some j ∧ Wire.ofWire j = .ok v := by
  rw [Wire.required]
  cases members.get? key with
  | none => simp
  | some j => simp [RpcError.atKey, mapError_eq_ok]

theorem required_of_none (h : members.get? key = none) :
    Wire.required α members key = .error (.missingParameter key) := by
  rw [Wire.required, h]

end

/-- The values of a key in two objects are read alike, or it is in neither. -/
def Alike (α : Type) [Wire α] (members others : Members) (key : String) : Prop :=
  (members.get? key).map (Wire.ofWire (α := α)) = (others.get? key).map Wire.ofWire

section

variable {α : Type} [Wire α] {members others : Members} {key : String}
  (h : Alike α members others key)

include h

theorem required_congr : Wire.required α members key = Wire.required α others key := by
  rw [Alike] at h
  rw [required_eq, required_eq, h]

theorem optional_congr : Wire.optional α members key = Wire.optional α others key := by
  rw [Alike] at h
  rw [optional_eq, optional_eq, h]

theorem contains_congr : members.contains key = others.contains key := by
  have hsome := congrArg Option.isSome h
  rwa [Option.isSome_map, Option.isSome_map] at hsome

end

/-! ### Steps that fail -/

theorem bind_of_eq_error {ε α β : Type} {x : Except ε α} {e : ε} (h : x = .error e)
    (f : α → Except ε β) : x >>= f = .error e := by
  rw [h]
  rfl

theorem map_eq_error {ε α β : Type} {x : Except ε α} {f : α → β} {e : ε} :
    x.map f = .error e ↔ x = .error e := by
  cases x <;> simp [Except.map]

/-! ### Lists -/

/-- Items that are read alike may stand for each other. -/
theorem mapM_append_cons_congr {ε α β : Type} {f : α → Except ε β} {v w : α} (h : f v = f w)
    (before after : List α) : (before ++ v :: after).mapM f = (before ++ w :: after).mapM f := by
  rw [List.mapM_append, List.mapM_append, List.mapM_cons, List.mapM_cons, h]

/-- The first item that cannot be read ends the reading. -/
theorem mapM_eq_error {ε α β : Type} {f : α → Except ε β} {before : List α} {a : α} {e : ε}
    (hbefore : ∀ b ∈ before, ∃ r, f b = .ok r) (h : f a = .error e) (after : List α) :
    (before ++ a :: after).mapM f = .error e := by
  obtain ⟨results, hresults⟩ := exists_mapM_eq_ok.mpr hbefore
  rw [List.mapM_append, hresults, List.mapM_cons, h]
  rfl

/-! ### Unions -/

/-- A union is fine if it has no member but the active one. Otherwise all of its members that are
there are named, in the order of the union. -/
theorem ensureSingleMember_eq (members : Members) (union : String) {names : List String}
    (hnodup : names.Nodup) (active : String) :
    Wire.ensureSingleMember members union names active =
      if ∀ name ∈ names, name ≠ active → members.get? name = none then .ok ()
      else .error (.unionConstraint union (names.filter members.contains)) := by
  split
  · rename_i h
    exact ensureSingleMember_eq_ok union hnodup h
  · rename_i h
    have hother : (names.filter members.contains).any (· != active) = true := by
      push Not at h
      obtain ⟨name, hname, hne, hget⟩ := h
      refine List.any_eq_true.mpr ⟨name, List.mem_filter.mpr ⟨hname, ?_⟩, by simpa using hne⟩
      exact Option.isSome_iff_ne_none.mpr hget
    rw [Wire.ensureSingleMember]
    simp only [hother, Bool.or_true, if_true]

/-- What is wrong with a union depends on the presence of its members only. -/
theorem ensureSingleMember_congr {members others : Members} {names : List String}
    (h : ∀ name ∈ names, members.contains name = others.contains name) (union active : String) :
    Wire.ensureSingleMember members union names active =
      Wire.ensureSingleMember others union names active := by
  rw [Wire.ensureSingleMember, Wire.ensureSingleMember, List.filter_congr h]

end RpcSchema
