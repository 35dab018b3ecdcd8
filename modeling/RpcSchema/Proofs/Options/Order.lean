import Mathlib.Data.List.Nodup
import RpcSchema.Drawing.Wire
import RpcSchema.Proofs.Options.Selection

/-!
# The order of keys and values

Keys and values may be given in any order, as long as no key is given twice: whatever is read from
them is read from every other order of them too, and if it cannot be read then the error is the
same.

The order is lost in two places. A selection passes it on, so that the pairs which are selected are
again in another order and have distinct keys; a scalar has one pair, where there is no order. A
list is put in the order of its indexes. Two segments may write one index, as `1` and `01` do, but
then the indexes do not count up from zero, and the error is the same in whatever order they were
sorted.

## Main definitions

* `KeyValues.Rearranged` — the same pairs with distinct keys, in another order
* `OptionValue.Built`, `OptionValue.BuiltFields` — the types that are built from scalars and
  enumerations by lists and structs, and how the fields of a struct are read

## Main results

* `KeyValues.Rearranged.select?` — a selection passes the order on
* `OptionValue.indexed_eq_of_perm` — the segments of a list, whatever their order
* `OptionValue.ofPairs_eq_of_perm` — whatever is read is read in every order
-/

namespace RpcSchema.Options

namespace KeyValues

/-- The same pairs in another order, no two of which have the same key. -/
structure Rearranged (kvs others : KeyValues) : Prop where
  distinct : (kvs.pairs.map (·.1)).Nodup
  perm : kvs.pairs.Perm others.pairs

variable {kvs others : KeyValues} {key value : String}

/-! ### Selections -/

/-- If no key is given twice then each value is the last one. -/
theorem last?_eq_some_iff_mem (h : (kvs.pairs.map (·.1)).Nodup) :
    kvs.last? key = some value ↔ (key, value) ∈ kvs.pairs := by
  constructor
  · intro hlast
    obtain ⟨before, after, hpairs, -⟩ := last?_eq_some_iff.mp hlast
    rw [hpairs]
    exact List.mem_append_right before List.mem_cons_self
  · intro hmem
    obtain ⟨before, after, hpairs⟩ := List.append_of_mem hmem
    refine last?_eq_some_iff.mpr ⟨before, after, hpairs, fun p hp heq => ?_⟩
    rw [hpairs, List.map_append, List.map_cons] at h
    have hnew := (List.nodup_cons.mp (List.nodup_append.mp h).2.1).1
    exact hnew (List.mem_map.mpr ⟨p, hp, heq⟩)

theorem Rearranged.last? (h : kvs.Rearranged others) (key : String) :
    kvs.last? key = others.last? key := by
  have hothers : (others.pairs.map (·.1)).Nodup := (h.perm.map _).nodup_iff.mp h.distinct
  refine Option.ext fun value => ?_
  rw [last?_eq_some_iff_mem h.distinct, last?_eq_some_iff_mem hothers, h.perm.mem_iff]

/-- Distinct paths below one key go on differently. -/
theorem Rearranged.nested (h : kvs.Rearranged others) (key : String) :
    (kvs.nested key).Rearranged (others.nested key) := by
  constructor
  · have hpairs : kvs.pairs.Pairwise fun p q => p.1 ≠ q.1 := List.pairwise_map.mp h.distinct
    refine List.pairwise_map.mpr (hpairs.filterMap _ fun p q hne below hbelow below' hbelow' => ?_)
    obtain ⟨rest, hrest, rfl⟩ := Option.map_eq_some_iff.mp hbelow
    obtain ⟨rest', hrest', rfl⟩ := Option.map_eq_some_iff.mp hbelow'
    obtain ⟨-, hp⟩ := below?_eq_some_iff_eq.mp hrest
    obtain ⟨-, hq⟩ := below?_eq_some_iff_eq.mp hrest'
    rintro rfl
    exact hne (hp.trans hq.symm)
  · exact h.perm.filterMap _

/-- The selections for a key are in another order too. -/
theorem Rearranged.select? (h : kvs.Rearranged others) (key : String) :
    Option.Rel Rearranged (kvs.select? key) (others.select? key) := by
  rw [select?_eq, select?_eq, h.last? key]
  cases others.last? key with
  | some value => exact .some ⟨List.nodup_singleton _, .refl _⟩
  | none =>
    dsimp only
    have hnested : (kvs.nested key).Rearranged (others.nested key) := h.nested key
    have hnil : (kvs.nested key).pairs = [] ↔ (others.nested key).pairs = [] := by
      rw [← List.length_eq_zero_iff, hnested.perm.length_eq, List.length_eq_zero_iff]
    simp only [hnil]
    split
    · exact .none
    · exact .some hnested

theorem scalar?_of_length_ne {pairs : List (String × String)} (h : pairs.length ≠ 1) :
    scalar? ⟨pairs⟩ = .error (.wrongType "a scalar value") := by
  unfold KeyValues.scalar?
  split
  · rename_i hpairs
    rw [show pairs = [_] from hpairs] at h
    exact absurd rfl h
  · rfl

/-- A single pair has no order. -/
theorem Rearranged.scalar? (h : kvs.Rearranged others) : kvs.scalar? = others.scalar? := by
  obtain ⟨pairs⟩ := kvs
  obtain ⟨more⟩ := others
  have hperm : pairs.Perm more := h.perm
  by_cases hone : pairs.length = 1
  · obtain ⟨p, rfl⟩ := List.length_eq_one_iff.mp hone
    rw [List.singleton_perm.mp hperm]
  · rw [scalar?_of_length_ne hone, scalar?_of_length_ne (hperm.length_eq ▸ hone)]

/-! ### Segments -/

theorem nodup_addSegment {seen : List String} (h : seen.Nodup) (path : String) :
    (addSegment seen path).Nodup := by
  rw [addSegment]
  split
  · exact h
  · rename_i hnew
    rw [Bool.or_eq_true, not_or, List.contains_iff_mem] at hnew
    exact List.concat_eq_append ▸ h.concat hnew.2

theorem nodup_segments (kvs : KeyValues) : kvs.segments.Nodup :=
  List.foldlRecOn kvs.pairs _ List.nodup_nil fun _ h p _ => nodup_addSegment h p.1

theorem Rearranged.segments (h : kvs.Rearranged others) :
    kvs.segments.Perm others.segments := by
  refine (List.perm_ext_iff_of_nodup (nodup_segments kvs) (nodup_segments others)).mpr ?_
  intro segment
  simp only [mem_segments, h.perm.mem_iff]

end KeyValues

namespace OptionValue

open KeyValues

/-! ### Lists -/

theorem index_eq_error {segment : String} {error : RpcError} (h : index segment = .error error) :
    error = .wrongValue "list indexes" := by
  rw [index] at h
  split at h <;> cases h
  rfl

/-- Segments and their indexes, in the order of the indexes. -/
def byIndex (found : List (Nat × String)) : List (Nat × String) :=
  found.mergeSort fun a b => a.1 ≤ b.1

theorem byIndex_perm (found : List (Nat × String)) : (byIndex found).Perm found :=
  List.mergeSort_perm found _

theorem pairwise_byIndex (found : List (Nat × String)) :
    (byIndex found).Pairwise fun a b => a.1 ≤ b.1 := by
  have hsorted : (byIndex found).Pairwise fun a b => decide (a.1 ≤ b.1) := by
    refine List.pairwise_mergeSort (fun a b c hab hbc => ?_) (fun a b => ?_) found
    · exact decide_eq_true ((of_decide_eq_true hab).trans (of_decide_eq_true hbc))
    · simpa using Nat.le_total a.1 b.1
  exact hsorted.imp of_decide_eq_true

section

variable {found more : List (Nat × String)} (h : found.Perm more)

include h

theorem byIndex_perm_byIndex : (byIndex found).Perm (byIndex more) :=
  (byIndex_perm found).trans (h.trans (byIndex_perm more).symm)

/-- The indexes in order are the same, whatever their order was before. -/
theorem map_byIndex_eq : (byIndex found).map (·.1) = (byIndex more).map (·.1) := by
  refine List.Perm.eq_of_pairwise (fun _ _ _ _ => Nat.le_antisymm) ?_ ?_
    ((byIndex_perm_byIndex h).map _)
  · exact List.pairwise_map.mpr (pairwise_byIndex found)
  · exact List.pairwise_map.mpr (pairwise_byIndex more)

/-- So are the segments, if no two of them write the same index. -/
theorem byIndex_eq (hdistinct : (found.map (·.1)).Nodup) : byIndex found = byIndex more := by
  refine List.Perm.eq_of_pairwise ?_ (pairwise_byIndex found) (pairwise_byIndex more)
    (byIndex_perm_byIndex h)
  intro a b ha hb hab hba
  have ha' : a ∈ found := (byIndex_perm found).mem_iff.mp ha
  have hb' : b ∈ found := h.mem_iff.mpr ((byIndex_perm more).mem_iff.mp hb)
  exact List.inj_on_of_nodup_map hdistinct ha' hb' (Nat.le_antisymm hab hba)

end

/-- The segments of found indexes, if these count up from zero. -/
def counted (found : List (Nat × String)) : Except RpcError (List String) :=
  if (byIndex found).map (·.1) = List.range (byIndex found).length then
    .ok ((byIndex found).map (·.2))
  else .error (.wrongValue "list indexes counting up from 0")

theorem indexed_eq (kvs : KeyValues) : indexed kvs = kvs.segments.mapM index >>= counted :=
  rfl

/-- Indexes that count up from zero are distinct, so there is one order of them. Otherwise it does
not matter which order there is. -/
theorem counted_eq_of_perm {found more : List (Nat × String)} (h : found.Perm more) :
    counted found = counted more := by
  have hlength : (byIndex found).length = (byIndex more).length :=
    (byIndex_perm_byIndex h).length_eq
  rw [counted, counted, map_byIndex_eq h, hlength]
  split
  · rename_i hrange
    have hdistinct : (found.map (·.1)).Nodup := by
      rw [← ((byIndex_perm found).map (·.1)).nodup_iff, map_byIndex_eq h, hrange]
      exact List.nodup_range
    rw [byIndex_eq h hdistinct]
  · rfl

/-- The segments of a list in the order of their indexes, or the error, whatever their order is. -/
theorem indexed_eq_of_perm {kvs others : KeyValues} (h : kvs.segments.Perm others.segments) :
    indexed kvs = indexed others := by
  rw [indexed_eq, indexed_eq]
  cases hmore : others.segments.mapM index with
  | ok more =>
    obtain ⟨found, hfound, hperm⟩ := exists_mapM_of_perm h hmore
    rw [bind_of_eq_ok hfound]
    exact counted_eq_of_perm hperm
  | error error =>
    cases hfound : kvs.segments.mapM index with
    | ok found =>
      obtain ⟨more, hok, -⟩ := exists_mapM_of_perm h.symm hfound
      rw [hok] at hmore
      cases hmore
    | error other =>
      obtain ⟨_, -, herror⟩ := exists_error_of_mapM hmore
      obtain ⟨_, -, hother⟩ := exists_error_of_mapM hfound
      rw [index_eq_error herror, index_eq_error hother]

/-! ### Types -/

mutual

/-- The types that are built from strings, numbers, switches and enumerations by lists and
structs. -/
inductive Built : (α : Type) → OptionValue α → Prop
  | text : Built String inferInstance
  | integer : Built Int64 inferInstance
  | number : Built Float inferInstance
  | switch : Built Bool inferInstance
  /-- an enumeration, whose values are given by their labels -/
  | label {α : Type} [Labelled α] : Built α Labelled.optionValue
  | list {α : Type} [item : OptionValue α] : Built α item → Built (List α) inferInstance
  | struct {α : Type} {whole : OptionValue α} : BuiltFields whole.ofPairs → Built α whole

/-- A struct is read field by field, each by its key, and made of what was read. -/
inductive BuiltFields : {α : Type} → (KeyValues → Except RpcError α) → Prop
  | done {α : Type} (value : α) : BuiltFields fun _ => .ok value
  | required {α β : Type} [field : OptionValue β] {next : β → KeyValues → Except RpcError α}
    (key : String) : Built β field → (∀ value, BuiltFields (next value)) →
    BuiltFields fun kvs => required β kvs key >>= fun value => next value kvs
  | optional {α β : Type} [field : OptionValue β]
    {next : Option β → KeyValues → Except RpcError α} (key : String) : Built β field →
    (∀ value, BuiltFields (next value)) →
    BuiltFields fun kvs => optional β kvs key >>= fun value => next value kvs

end

/-! ### Reading -/

theorem ofScalar_eq_of_rearranged {α : Type} {kvs others : KeyValues} (h : kvs.Rearranged others)
    (expected : String) (read : String → Option α) :
    ofScalar expected read kvs = ofScalar expected read others := by
  rw [ofScalar, ofScalar, h.scalar?]

section

variable {α : Type} [OptionValue α]

theorem required_eq (kvs : KeyValues) (key : String) : required α kvs key =
    ((kvs.select? key).map ofPairs).elim (.error (.missingParameter key))
      (RpcError.atKey key) := by
  rw [required]
  cases kvs.select? key <;> rfl

theorem optional_eq (kvs : KeyValues) (key : String) : optional α kvs key =
    ((kvs.select? key).map ofPairs).elim (.ok none)
      fun result => (RpcError.atKey key result).map some := by
  rw [optional]
  cases kvs.select? key <;> rfl

variable {kvs others : KeyValues} (h : kvs.Rearranged others)
  (hitem : ∀ {inner more : KeyValues}, inner.Rearranged more →
    (ofPairs inner : Except RpcError α) = ofPairs more)

include h hitem

theorem map_select?_eq (key : String) :
    (kvs.select? key).map (ofPairs : KeyValues → Except RpcError α) =
      (others.select? key).map ofPairs := by
  have hselect := h.select? key
  generalize kvs.select? key = selected at hselect ⊢
  generalize others.select? key = other at hselect ⊢
  cases hselect with
  | none => rfl
  | some hinner => exact congrArg some (hitem hinner)

theorem required_eq_of_rearranged (key : String) : required α kvs key = required α others key := by
  rw [required_eq, required_eq, map_select?_eq h hitem]

theorem optional_eq_of_rearranged (key : String) : optional α kvs key = optional α others key := by
  rw [optional_eq, optional_eq, map_select?_eq h hitem]

theorem ofPairs_list_eq_of_rearranged :
    (ofPairs kvs : Except RpcError (List α)) = ofPairs others := by
  rw [ofPairs_list, ofPairs_list, indexed_eq_of_perm h.segments]
  congr 1
  funext ordered
  exact mapM_congr fun segment _ => required_eq_of_rearranged h hitem segment

end

mutual

/-- Whatever is read is read in every order. The induction is on how the type is built. -/
theorem Built.eq_of_rearranged {α : Type} {whole : OptionValue α} (hbuilt : Built α whole)
    {kvs others : KeyValues} (h : kvs.Rearranged others) :
    whole.ofPairs kvs = whole.ofPairs others :=
  match hbuilt with
  | .text => h.scalar?
  | .integer => ofScalar_eq_of_rearranged h _ _
  | .number => ofScalar_eq_of_rearranged h _ _
  | .switch => ofScalar_eq_of_rearranged h _ _
  | @Built.label _ _ => by
    show kvs.scalar? >>= Labelled.ofLabel = others.scalar? >>= Labelled.ofLabel
    rw [h.scalar?]
  | @Built.list _ _ hitem =>
    ofPairs_list_eq_of_rearranged h fun hinner => hitem.eq_of_rearranged hinner
  | .struct hfields => hfields.eq_of_rearranged h

theorem BuiltFields.eq_of_rearranged {α : Type} {read : KeyValues → Except RpcError α}
    (hbuilt : BuiltFields read) {kvs others : KeyValues} (h : kvs.Rearranged others) :
    read kvs = read others :=
  match hbuilt with
  | .done _ => rfl
  | @BuiltFields.required _ _ _ _ key hfield hnext => by
    have hvalue := required_eq_of_rearranged h (fun hinner => hfield.eq_of_rearranged hinner) key
    show required _ kvs key >>= _ = required _ others key >>= _
    rw [hvalue]
    congr 1
    funext value
    exact (hnext value).eq_of_rearranged h
  | @BuiltFields.optional _ _ _ _ key hfield hnext => by
    have hvalue := optional_eq_of_rearranged h (fun hinner => hfield.eq_of_rearranged hinner) key
    show optional _ kvs key >>= _ = optional _ others key >>= _
    rw [hvalue]
    congr 1
    funext value
    exact (hnext value).eq_of_rearranged h

end

/-- If no key is given twice then the pairs may come in any order: whatever they are read as, the
same value is read or the same error is given. -/
theorem ofPairs_eq_of_perm {α : Type} {whole : OptionValue α} (hbuilt : Built α whole)
    {kvs others : KeyValues} (hdistinct : (kvs.pairs.map (·.1)).Nodup)
    (hperm : kvs.pairs.Perm others.pairs) : whole.ofPairs kvs = whole.ofPairs others :=
  hbuilt.eq_of_rearranged ⟨hdistinct, hperm⟩

/-- The points of a drawing are a struct of two required fields and an optional one. -/
theorem built_point : Built Drawing.Point inferInstance :=
  .struct <| .required "x" .integer fun _ => .required "y" .integer fun _ =>
    .optional "label" .text fun _ => .done _

/-- Two points, the second of which comes first, and the fields of the first of which are mixed with
those of the second. -/
theorem ofPairs_eq_of_perm_points :
    let kvs : KeyValues := ⟨[("1.y", "4"), ("0.label", "a"), ("1.x", "3"), ("0.y", "2"), ("0.x", "1")]⟩
    let others : KeyValues :=
      ⟨[("0.x", "1"), ("0.y", "2"), ("0.label", "a"), ("1.x", "3"), ("1.y", "4")]⟩
    (kvs.pairs.map (·.1)).Nodup ∧ kvs.pairs.Perm others.pairs ∧
      (ofPairs kvs : Except RpcError (List Drawing.Point)) =
        .ok [⟨1, 2, some "a"⟩, ⟨3, 4, none⟩] ∧
      (ofPairs others : Except RpcError (List Drawing.Point)) =
        .ok [⟨1, 2, some "a"⟩, ⟨3, 4, none⟩] := by
  intro kvs others
  have hdistinct : (kvs.pairs.map (·.1)).Nodup := by decide
  have hperm : kvs.pairs.Perm others.pairs := by decide
  have hfound : others.segments.mapM index = .ok [(0, "0"), (1, "1")] := by decide +kernel
  have hread : (ofPairs others : Except RpcError (List Drawing.Point)) =
      .ok [⟨1, 2, some "a"⟩, ⟨3, 4, none⟩] :=
    (bind_of_eq_ok (indexed_of_counting hfound rfl) _).trans (by decide +kernel)
  exact ⟨hdistinct, hperm, (ofPairs_eq_of_perm (.list built_point) hdistinct hperm).trans hread,
    hread⟩

end OptionValue

end RpcSchema.Options
