import Mathlib.Data.List.Perm.Subperm
import Mathlib.Logic.Relation
import Mathlib.Order.RelClasses
import RpcSchema.Proofs.Schema.Verified

/-!
# Recursive nesting

The verifier looks for a name inside itself with a search that goes depth first, keeps the names
that it is inside of, and stops at names that it has finished. The relation behind it is `Nests`:
a name stands directly inside another one. What the search reports is a name inside itself. What it
finishes has only finitely many names inside it, one in another, which is accessibility in the sense
of `Acc`; and since it starts at every definition, finding nothing makes the relation well founded.

The depth of the search is bounded by the number of definitions. The bound is never met, because the
names that the search is inside of are distinct definitions.

## Main definitions

* `Nests` — a name stands directly inside another one
* `Inside` — where the search can be
* `Judged` — what the search says of the names below which it has looked

## Main results

* `judged_descend`, `judged_descendAll` — what the search says is true
* `transGen_of_recursive?` — the name it reports is inside itself
* `recursive?_eq_none_iff` — it reports none exactly if nesting is well founded
-/

namespace RpcSchema.Schema

open Relation (TransGen)

/-- A name stands directly inside the struct, union or handle of another one. -/
def Nests (schema : Schema) (inner outer : String) : Prop :=
  ∃ names, schema.contained? outer = some names ∧ inner ∈ names

/-- The search is inside distinct definitions, with depth left for all the others. -/
structure Inside (schema : Schema) (depth : Nat) (path : List String) : Prop where
  nodup : path.Nodup
  defined : path ⊆ schema.definitions.map (·.name)
  room : depth + path.length = schema.definitions.length

/-- What a search below some names gives: a name that is inside itself, or names with nothing
endless inside them, those that it started with among them. -/
inductive Judged (schema : Schema) (names : List String) : Except String (List String) → Prop
  | nested {name : String} : TransGen schema.Nests name name → Judged schema names (.error name)
  | finished {done : List String} : (∀ name ∈ names, Acc schema.Nests name) →
    (∀ name ∈ done, Acc schema.Nests name) → Judged schema names (.ok done)

variable {schema : Schema} {depth : Nat} {path done names : List String} {name : String}
  {result : Except String (List String)}

/-- Only definitions have something inside. -/
theorem mem_of_contained? (h : schema.contained? name = some names) :
    name ∈ schema.definitions.map (·.name) := by
  cases hlookup : schema.lookup? name with
  | none => simp [contained?, hlookup] at h
  | some d =>
    obtain ⟨hd, -, rfl⟩ := lookup?_some hlookup
    exact List.mem_map_of_mem hd

theorem acc_of_contained?_eq_none (h : schema.contained? name = none) : Acc schema.Nests name := by
  refine Acc.intro name fun inner hinner => ?_
  obtain ⟨names, hnames, -⟩ := hinner
  rw [h] at hnames
  cases hnames

/-! ### Going inside -/

/-- One more definition on the path. -/
theorem Inside.cons (h : schema.Inside (depth + 1) path) (hnew : name ∉ path)
    (hname : name ∈ schema.definitions.map (·.name)) : schema.Inside depth (name :: path) where
  nodup := List.nodup_cons.mpr ⟨hnew, h.nodup⟩
  defined := List.cons_subset.mpr ⟨hname, h.defined⟩
  room := by
    have hroom := h.room
    rw [List.length_cons]
    omega

/-- Without depth left, all definitions are on the path. -/
theorem Inside.mem_of_zero (h : schema.Inside 0 path)
    (hname : name ∈ schema.definitions.map (·.name)) : name ∈ path := by
  by_contra hnew
  have hsubset : name :: path ⊆ schema.definitions.map (·.name) :=
    List.cons_subset.mpr ⟨hname, h.defined⟩
  have hlength := (List.subperm_of_subset (List.nodup_cons.mpr ⟨hnew, h.nodup⟩) hsubset).length_le
  have hroom := h.room
  rw [List.length_cons, List.length_map] at hlength
  omega

/-! ### The search -/

/-- One search after another. -/
theorem Judged.bind {more : List String} {next : List String → Except String (List String)}
    (h : schema.Judged names result)
    (hnext : ∀ done, (∀ name ∈ names, Acc schema.Nests name) →
      (∀ name ∈ done, Acc schema.Nests name) → schema.Judged more (next done)) :
    schema.Judged more (result >>= next) := by
  cases h with
  | nested hcycle => exact .nested hcycle
  | finished hnames hdone => exact hnext _ hnames hdone

/-- A search that also finds names with nothing endless inside them. -/
theorem Judged.cons (h : schema.Judged names result) (hname : Acc schema.Nests name) :
    schema.Judged (name :: names) result := by
  cases h with
  | nested hcycle => exact .nested hcycle
  | finished hnames hdone => exact .finished (List.forall_mem_cons.mpr ⟨hname, hnames⟩) hdone

/-- Names below which the search looks one after the other. -/
theorem judged_descendAll
    (hdescend : ∀ {done name}, (∀ outer ∈ path, TransGen schema.Nests name outer) →
      (∀ name ∈ done, Acc schema.Nests name) →
      schema.Judged [name] (schema.descend depth path done name))
    (hnames : ∀ name ∈ names, ∀ outer ∈ path, TransGen schema.Nests name outer)
    (hdone : ∀ name ∈ done, Acc schema.Nests name) :
    schema.Judged names (schema.descendAll depth path done names) := by
  induction names generalizing done with
  | nil =>
    rw [descendAll]
    exact .finished (List.forall_mem_nil _) hdone
  | cons name rest ih =>
    obtain ⟨hname, hrest⟩ := List.forall_mem_cons.mp hnames
    rw [descendAll]
    refine (hdescend hname hdone).bind fun done hfirst hdone => ?_
    exact (ih hrest hdone).cons (hfirst name (List.mem_singleton_self _))

/-- A name inside of all those on the path. -/
theorem judged_descend (hinside : schema.Inside depth path)
    (hname : ∀ outer ∈ path, TransGen schema.Nests name outer)
    (hdone : ∀ name ∈ done, Acc schema.Nests name) :
    schema.Judged [name] (schema.descend depth path done name) := by
  induction depth generalizing path done name with
  | zero =>
    rw [descend]
    split
    · rename_i hnone
      exact .finished (List.forall_mem_singleton.mpr (acc_of_contained?_eq_none hnone)) hdone
    rename_i names hnames
    -- The branch of the search that gives up for lack of depth is not met.
    have hpath : name ∈ path := hinside.mem_of_zero (mem_of_contained? hnames)
    rw [if_pos (by simpa using hpath)]
    exact .nested (hname name hpath)
  | succ depth ih =>
    rw [descend]
    split
    · rename_i hnone
      exact .finished (List.forall_mem_singleton.mpr (acc_of_contained?_eq_none hnone)) hdone
    rename_i names hnames
    split
    · rename_i hpath
      exact .nested (hname name (by simpa using hpath))
    rename_i hpath
    split
    · rename_i hold
      exact .finished (List.forall_mem_singleton.mpr (hdone name (by simpa using hold))) hdone
    have hdeeper := hinside.cons (by simpa using hpath) (mem_of_contained? hnames)
    have hinner : ∀ inner ∈ names, ∀ outer ∈ name :: path, TransGen schema.Nests inner outer := by
      intro inner hmem
      have hnests : schema.Nests inner name := ⟨names, hnames, hmem⟩
      exact List.forall_mem_cons.mpr ⟨.single hnests, fun outer h => .head hnests (hname outer h)⟩
    refine (judged_descendAll (fun hbelow hdone => ih hdeeper hbelow hdone) hinner hdone).bind ?_
    intro done hinner hdone
    have hacc : Acc schema.Nests name := by
      refine Acc.intro name fun inner hnests => ?_
      obtain ⟨others, hothers, hmem⟩ := hnests
      obtain rfl := Option.some.inj (hnames.symm.trans hothers)
      exact hinner inner hmem
    exact .finished (List.forall_mem_singleton.mpr hacc) (List.forall_mem_cons.mpr ⟨hacc, hdone⟩)

/-! ### The check -/

theorem judged_roots (schema : Schema) : schema.Judged (schema.definitions.map (·.name))
    (schema.descendAll schema.definitions.length [] [] (schema.definitions.map (·.name))) := by
  have hinside : schema.Inside schema.definitions.length [] := ⟨.nil, List.nil_subset _, rfl⟩
  exact judged_descendAll (fun hbelow hdone => judged_descend hinside hbelow hdone)
    (fun _ _ => nofun) nofun

/-- The name that is reported is inside itself. -/
theorem transGen_of_recursive? (h : schema.recursive? = some name) :
    TransGen schema.Nests name name := by
  have hroots := judged_roots schema
  unfold recursive? at h
  split at h
  · cases h
  · rename_i hresult
    cases h
    rw [hresult] at hroots
    cases hroots with
    | nested hcycle => exact hcycle

/-- No name is reported exactly if no nesting goes on without end. -/
theorem recursive?_eq_none_iff : schema.recursive? = none ↔ WellFounded schema.Nests := by
  constructor
  · intro h
    have hroots := judged_roots schema
    unfold recursive? at h
    split at h
    · rename_i hresult
      rw [hresult] at hroots
      cases hroots with
      | finished hroots hdone =>
        refine ⟨fun name => ?_⟩
        cases hcontained : schema.contained? name with
        | none => exact acc_of_contained?_eq_none hcontained
        | some names => exact hroots name (mem_of_contained? hcontained)
    · cases h
  · intro hwf
    cases h : schema.recursive? with
    | none => rfl
    | some name =>
      have hcycle := transGen_of_recursive? h
      exact absurd hcycle (hwf.transGen.asymmetric name name hcycle)

end RpcSchema.Schema
