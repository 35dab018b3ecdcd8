import RpcSchema.Proofs.Options.Lists

/-!
# Selection along a path

What was given for `origin.x` can be asked for at once, or by selecting `origin` first and then `x`
among what that gave. The two agree as long as nothing on the way hides what is below it: a value
given for `origin` itself is all that is selected for `origin`.

A selection depends on two things only, the last value for the key and the pairs below it, and both
can be taken in two steps. That is one lemma for two segments, and an induction for longer paths.

## Main definitions

* `dotted` — the segments of a path, joined by dots
* `KeyValues.last?`, `KeyValues.nested` — the two parts of a selection
* `KeyValues.IsLast` — the last value for a key, said of the pairs
* `KeyValues.Unhidden` — a path of which no proper start has a value

## Main results

* `KeyValues.last?_nested`, `KeyValues.nested_nested` — both parts in two steps
* `KeyValues.scalar?_select?` — a selection is a scalar just if there is a value for the key itself
* `KeyValues.foldlM_select?` — one segment after the other, or the whole path at once
-/

namespace RpcSchema.Options

/-- The segments of a path, joined by dots. -/
def dotted (path : List String) : String := ".".intercalate path

theorem dotted_singleton (segment : String) : dotted [segment] = segment :=
  String.intercalate_singleton

theorem dotted_cons {segment : String} {path : List String} (h : path ≠ []) :
    dotted (segment :: path) = segment ++ "." ++ dotted path :=
  String.intercalate_cons_of_ne_nil h

theorem dotted_ne_empty {path : List String} (hpath : path ≠ [])
    (hsegments : ∀ segment ∈ path, segment ≠ "") : dotted path ≠ "" := by
  obtain ⟨segment, rest, rfl⟩ := List.exists_cons_of_ne_nil hpath
  have hsegment : segment ≠ "" := hsegments segment List.mem_cons_self
  by_cases hrest : rest = []
  · rwa [hrest, dotted_singleton]
  · rw [dotted_cons hrest]
    simp [hsegment]

namespace KeyValues

variable {kvs : KeyValues} {key rest value : String}

/-! ### The two parts of a selection -/

/-- The last value that is given for exactly the key. -/
def last? (kvs : KeyValues) (key : String) : Option String := kvs.pairs.reverse.lookup key

/-- What is given for the paths below a key. -/
def nested (kvs : KeyValues) (key : String) : KeyValues :=
  ⟨kvs.pairs.filterMap fun p => (below? key p.1).map (·, p.2)⟩

theorem select?_eq (kvs : KeyValues) (key : String) : kvs.select? key =
    match kvs.last? key with
    | some value => some (ofScalar value)
    | none => if (kvs.nested key).pairs = [] then none else some (kvs.nested key) := by
  rw [select?, last?, nested]
  cases kvs.pairs.reverse.lookup key with
  | some value => rfl
  | none =>
    cases kvs.pairs.filterMap fun p => (below? key p.1).map (·, p.2) with
    | nil => rfl
    | cons p more => rfl

theorem select?_of_nil (key : String) : select? ⟨[]⟩ key = none := rfl

/-- A value is the last one for a key: nothing is given for exactly the key after it. -/
def IsLast (kvs : KeyValues) (key value : String) : Prop :=
  ∃ before after, kvs.pairs = before ++ (key, value) :: after ∧ ∀ p ∈ after, p.1 ≠ key

theorem last?_eq_some_iff : kvs.last? key = some value ↔ kvs.IsLast key value := by
  rw [last?, List.lookup_eq_some_iff]
  constructor
  · rintro ⟨later, earlier, hpairs, hlater⟩
    refine ⟨earlier.reverse, later.reverse, ?_, fun p hp => ?_⟩
    · rw [← List.reverse_reverse kvs.pairs, hpairs]
      simp
    · exact (bne_iff_ne.mp (hlater p (List.mem_reverse.mp hp))).symm
  · rintro ⟨before, after, hpairs, hafter⟩
    refine ⟨after.reverse, before.reverse, ?_, fun p hp => ?_⟩
    · rw [hpairs]
      simp
    · exact bne_iff_ne.mpr (hafter p (List.mem_reverse.mp hp)).symm

theorem last?_eq_none_iff : kvs.last? key = none ↔ ∀ p ∈ kvs.pairs, p.1 ≠ key := by
  rw [last?, List.lookup_eq_none_iff]
  simp only [List.mem_reverse, bne_iff_ne, ne_comm]

/-- The paths below a key are the key, a dot and something more. -/
theorem below?_eq_some_iff_eq {path : String} :
    below? key path = some rest ↔ rest ≠ "" ∧ path = key ++ "." ++ rest := by
  rw [below?_eq_some_iff, ← String.toList_inj]
  simp

theorem mem_nested : (rest, value) ∈ (kvs.nested key).pairs ↔
    rest ≠ "" ∧ (key ++ "." ++ rest, value) ∈ kvs.pairs := by
  simp only [nested, List.mem_filterMap, Option.map_eq_some_iff, below?_eq_some_iff_eq,
    Prod.mk.injEq]
  constructor
  · rintro ⟨⟨path, v⟩, hp, _, ⟨hne, rfl⟩, rfl, rfl⟩
    exact ⟨hne, hp⟩
  · rintro ⟨hne, hp⟩
    exact ⟨_, hp, rest, ⟨hne, rfl⟩, rfl, rfl⟩

/-! ### Two steps -/

/-- A path is below a longer key just if it is below in two steps. -/
theorem below?_below? (key rest path : String) :
    (below? key path).bind (below? rest) = below? (key ++ "." ++ rest) path := by
  refine Option.ext fun tail => ?_
  simp only [Option.bind_eq_some_iff, below?_eq_some_iff_eq]
  constructor
  · rintro ⟨_, ⟨-, rfl⟩, hne, rfl⟩
    exact ⟨hne, by simp only [String.append_assoc]⟩
  · rintro ⟨hne, rfl⟩
    exact ⟨rest ++ "." ++ tail, ⟨by simp, by simp only [String.append_assoc]⟩, hne, rfl⟩

theorem nested_nested (kvs : KeyValues) (key rest : String) :
    (kvs.nested key).nested rest = kvs.nested (key ++ "." ++ rest) := by
  simp only [nested, List.filterMap_filterMap]
  congr 2
  funext p
  rw [← below?_below?]
  cases below? key p.1 <;> rfl

theorem last?_nested (kvs : KeyValues) (key : String) (h : rest ≠ "") :
    (kvs.nested key).last? rest = kvs.last? (key ++ "." ++ rest) := by
  simp only [nested, last?, ← List.filterMap_reverse]
  induction kvs.pairs.reverse with
  | nil => rfl
  | cons p more ih =>
    rw [List.filterMap_cons, List.lookup_cons]
    cases hbelow : below? key p.1 with
    | none =>
      have hne : (key ++ "." ++ rest == p.1) = false := by
        refine beq_false_of_ne fun heq => ?_
        rw [below?_eq_some_iff_eq.mpr ⟨h, heq.symm⟩] at hbelow
        cases hbelow
      rw [hne]
      exact ih
    | some tail =>
      obtain ⟨-, hpath⟩ := below?_eq_some_iff_eq.mp hbelow
      have hsame : (key ++ "." ++ rest == p.1) = (rest == tail) := by
        rw [hpath, Bool.eq_iff_iff, beq_iff_eq, beq_iff_eq, ← String.toList_inj,
          ← String.toList_inj]
        simp
      rw [hsame, Option.map_some]
      dsimp only
      rw [List.lookup_cons, ih]

/-- What is below a key holds all that a longer path selects. -/
theorem select?_nested (kvs : KeyValues) (key : String) (h : rest ≠ "") :
    (kvs.nested key).select? rest = kvs.select? (key ++ "." ++ rest) := by
  rw [select?_eq, select?_eq, last?_nested kvs key h, nested_nested]

/-- If nothing is given for the key itself, then all that is below it is selected. -/
theorem select?_bind (h : kvs.last? key = none) {read : KeyValues → Option KeyValues}
    (hread : read ⟨[]⟩ = none) : (kvs.select? key).bind read = read (kvs.nested key) := by
  rw [select?_eq, h]
  dsimp only
  split
  · rename_i hnil
    have hnested : kvs.nested key = ⟨[]⟩ := by rw [nested, KeyValues.mk.injEq]; exact hnil
    rw [hnested, hread, Option.bind_none]
  · rfl

/-! ### Scalars -/

theorem scalar?_eq_ok_iff : kvs.scalar? = .ok value ↔ kvs = ofScalar value := by
  obtain ⟨pairs⟩ := kvs
  rw [scalar?, ofScalar, KeyValues.mk.injEq]
  dsimp only
  split
  · simp
  · rename_i hother
    constructor
    · intro herror
      cases herror
    · intro hpairs
      exact absurd hpairs (hother value)

/-- A selection is a scalar if there is a value for the key itself, and not if there are only values
for paths below it. -/
theorem scalar?_select? : (∃ selected, kvs.select? key = some selected ∧
    selected.scalar? = .ok value) ↔ kvs.IsLast key value := by
  rw [← last?_eq_some_iff, select?_eq]
  simp only [scalar?_eq_ok_iff]
  cases kvs.last? key with
  | some last => simp [ofScalar]
  | none =>
    constructor
    · rintro ⟨_, hselect, rfl⟩
      dsimp only at hselect
      split at hselect
      · cases hselect
      · have hmem : ("", value) ∈ (kvs.nested key).pairs := by
          rw [Option.some.inj hselect]
          exact List.mem_cons_self
        exact absurd rfl (mem_nested.mp hmem).1
    · intro hnone
      cases hnone

/-! ### Paths -/

/-- Nothing is given for a proper start of the path, which would hide what is below it. -/
def Unhidden (kvs : KeyValues) (path : List String) : Prop :=
  ∀ k < path.length, 0 < k → ∀ p ∈ kvs.pairs, p.1 ≠ dotted (path.take k)

instance (kvs : KeyValues) (path : List String) : Decidable (kvs.Unhidden path) :=
  inferInstanceAs (Decidable (∀ k < path.length, 0 < k →
    ∀ p ∈ kvs.pairs, p.1 ≠ dotted (path.take k)))

section

variable {segment : String} {path : List String}

theorem Unhidden.last?_eq_none (h : kvs.Unhidden (segment :: path)) (hpath : path ≠ []) :
    kvs.last? segment = none := by
  refine last?_eq_none_iff.mpr fun p hp => ?_
  have hlength : 1 < (segment :: path).length := by
    rw [List.length_cons]
    exact Nat.succ_lt_succ (List.length_pos_iff.mpr hpath)
  have hkey := h 1 hlength Nat.one_pos p hp
  rwa [List.take_succ_cons, List.take_zero, dotted_singleton] at hkey

/-- What hides a path below a segment would hide the whole path too. -/
theorem Unhidden.nested (h : kvs.Unhidden (segment :: path)) :
    (kvs.nested segment).Unhidden path := by
  intro k hlt hk p hp heq
  obtain ⟨-, hmem⟩ := mem_nested.mp hp
  have htake : path.take k ≠ [] := by
    rw [Ne, List.take_eq_nil_iff, not_or]
    exact ⟨hk.ne', List.ne_nil_of_length_pos (hk.trans hlt)⟩
  refine h (k + 1) (Nat.succ_lt_succ hlt) k.succ_pos _ hmem ?_
  rw [List.take_succ_cons, dotted_cons htake, heq]

theorem unhidden_nil (path : List String) : Unhidden ⟨[]⟩ path :=
  fun _ _ _ => List.forall_mem_nil _

/-- Selecting the segments of a path one after the other is selecting the whole path. -/
theorem foldlM_select?_eq (hpath : path ≠ []) (hsegments : ∀ segment ∈ path, segment ≠ "")
    (h : kvs.Unhidden path) : path.foldlM select? kvs = kvs.select? (dotted path) := by
  induction path generalizing kvs with
  | nil => exact absurd rfl hpath
  | cons segment rest ih =>
    by_cases hrest : rest = []
    · rw [hrest, dotted_singleton, List.foldlM_cons]
      exact bind_pure _
    obtain ⟨-, hsegments⟩ := List.forall_mem_cons.mp hsegments
    have hnothing : rest.foldlM select? ⟨[]⟩ = none :=
      (ih hrest hsegments (unhidden_nil rest)).trans (select?_of_nil _)
    have hbelow : rest.foldlM select? (kvs.nested segment) = (kvs.nested segment).select? _ :=
      ih hrest hsegments h.nested
    rw [List.foldlM_cons, dotted_cons hrest,
      ← select?_nested kvs segment (dotted_ne_empty hrest hsegments), ← hbelow]
    exact select?_bind (h.last?_eq_none hrest) hnothing

/-- Selecting the segments of a path one after the other gives what the whole path selects, the same
pairs in the same order or nothing, if no key is a proper start of the path. What is selected is a
scalar just if the path itself has a value, and then it is the last one. -/
theorem foldlM_select? (hpath : path ≠ []) (hsegments : ∀ segment ∈ path, segment ≠ "")
    (h : kvs.Unhidden path) :
    path.foldlM select? kvs = kvs.select? (dotted path) ∧
      ∀ value, (∃ selected, path.foldlM select? kvs = some selected ∧
        selected.scalar? = .ok value) ↔ kvs.IsLast (dotted path) value := by
  rw [foldlM_select?_eq hpath hsegments h]
  exact ⟨rfl, fun value => scalar?_select?⟩

end

/-- A path that is given twice, beside keys that look like it: one ends with a dot, one has a longer
segment, one goes on below the path and one starts with a dot. -/
theorem foldlM_select?_origin :
    let kvs : KeyValues :=
      ⟨[("shape.origin.x", "1"), ("shape.origin.", "2"), ("shape.origin.x", "3"),
        ("shape.origins", "4"), ("shape.origin.x.y", "5"), (".shape", "6")]⟩
    let path := ["shape", "origin", "x"]
    kvs.Unhidden path ∧ path.foldlM select? kvs = some (.ofScalar "3") ∧
      kvs.IsLast "shape.origin.x" "3" := by
  intro kvs path
  have hopen : kvs.Unhidden path := by decide
  obtain ⟨hselect, hscalar⟩ := foldlM_select? (by decide) (by decide) hopen
  have hfound : path.foldlM select? kvs = some (.ofScalar "3") := hselect.trans rfl
  exact ⟨hopen, hfound, (hscalar "3").mp ⟨_, hfound, rfl⟩⟩

end KeyValues

end RpcSchema.Options
