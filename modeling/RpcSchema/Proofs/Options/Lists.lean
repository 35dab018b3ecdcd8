import Mathlib.Data.List.Forall2
import Mathlib.Data.List.TakeWhile
import RpcSchema.Options.Reading
import RpcSchema.Proofs.Success

/-!
# The pairs that a list is read from

A list is read segment by segment, and a pair belongs to the segment that its key starts with. A key
that starts with none, as that of a scalar does or one with a dot in front, belongs to nothing: its
pair is passed over without an error, and the list is the one that the other pairs give. These all
have to be accounted for. Each of them starts with an index of the list, and each index has a pair.

So a list tells of every pair that it was given just if every key starts with a segment.

## Main definitions

* `KeyValues.named` — the pairs whose keys start with a segment
* `KeyValues.Accounted` — pairs that all start with an index below a length

## Main results

* `KeyValues.mem_segments` — the segments are those that keys start with
* `KeyValues.below?_eq_some_iff` — the paths below a key
* `KeyValues.select?_named` — what is given for a segment is given by pairs that start with it
* `OptionValue.ofPairs_named` — pairs without a segment make no difference to a list
* `OptionValue.accounted_iff` — when a list accounts for its pairs
-/

namespace RpcSchema.Options

namespace KeyValues

/-! ### Segments -/

/-- The segments seen so far, with the first one of a path if it is new. -/
def addSegment (seen : List String) (path : String) : List String :=
  if firstSegment path = "" || seen.contains (firstSegment path) then seen
  else seen ++ [firstSegment path]

theorem segments_eq (kvs : KeyValues) :
    kvs.segments = kvs.pairs.foldl (fun seen pair => addSegment seen pair.1) [] :=
  rfl

theorem mem_addSegment {seen : List String} {path segment : String} :
    segment ∈ addSegment seen path ↔
      segment ∈ seen ∨ segment ≠ "" ∧ firstSegment path = segment := by
  rw [addSegment]
  split
  · rename_i h
    refine (or_iff_left_of_imp ?_).symm
    rintro ⟨hne, rfl⟩
    simpa [hne] using h
  · rename_i h
    rw [Bool.or_eq_true, not_or, decide_eq_true_eq] at h
    rw [List.mem_append, List.mem_singleton, eq_comm (a := segment)]
    exact or_congr_right ⟨fun heq => ⟨heq ▸ h.1, heq⟩, And.right⟩

/-- The segments are those that a key starts with. -/
theorem mem_segments {kvs : KeyValues} {segment : String} :
    segment ∈ kvs.segments ↔ segment ≠ "" ∧ ∃ p ∈ kvs.pairs, firstSegment p.1 = segment := by
  have hfold : ∀ seen, segment ∈ kvs.pairs.foldl (fun seen pair => addSegment seen pair.1) seen ↔
      segment ∈ seen ∨ segment ≠ "" ∧ ∃ p ∈ kvs.pairs, firstSegment p.1 = segment := by
    induction kvs.pairs with
    | nil => simp
    | cons pair rest ih =>
      intro seen
      rw [List.foldl_cons, ih, mem_addSegment, or_assoc, ← and_or_left]
      simp only [List.mem_cons, exists_eq_or_imp]
  rw [segments_eq, hfold]
  simp

theorem dot_notMem_firstSegment (path : String) : '.' ∉ (firstSegment path).toList := by
  intro hmem
  rw [firstSegment, String.toList_ofList] at hmem
  simpa using List.mem_takeWhile_imp hmem

/-- The first segment ends at the first dot. -/
theorem firstSegment_eq {path segment : String} {rest : List Char}
    (hpath : path.toList = segment.toList ++ rest) (hsegment : '.' ∉ segment.toList)
    (hrest : ∀ c ∈ rest.head?, c = '.') : firstSegment path = segment := by
  have hkept : ∀ c ∈ segment.toList, (c != '.') = true := fun c hc =>
    bne_iff_ne.mpr fun heq => hsegment (heq ▸ hc)
  have hend : rest.takeWhile (· != '.') = [] := by
    cases rest with
    | nil => rfl
    | cons c rest => simp [hrest c rfl]
  rw [firstSegment, hpath, List.takeWhile_append_of_pos hkept, hend, List.append_nil,
    String.ofList_toList]

/-! ### Paths below a key -/

theorem after?_eq_some_iff {start text rest : List Char} :
    after? start text = some rest ↔ text = start ++ rest := by
  rw [after?]
  split
  · rename_i h
    obtain ⟨more, rfl⟩ := List.isPrefixOf_iff_prefix.mp h
    simp
  · rename_i h
    refine ⟨nofun, ?_⟩
    rintro rfl
    exact absurd (List.isPrefixOf_iff_prefix.mpr (List.prefix_append start rest)) h

/-- The path below a key is what comes after the key and a dot, if that is anything. -/
theorem below?_eq_some_iff {key path rest : String} :
    below? key path = some rest ↔
      rest ≠ "" ∧ path.toList = key.toList ++ '.' :: rest.toList := by
  have hafter (more : List Char) : after? (key.toList ++ ['.']) path.toList = some more ↔
      path.toList = key.toList ++ '.' :: more := by
    rw [after?_eq_some_iff, List.append_assoc, List.singleton_append]
  rw [← hafter, below?]
  cases after? (key.toList ++ ['.']) path.toList with
  | none => simp
  | some more =>
    cases more with
    | nil =>
      refine ⟨nofun, fun ⟨hne, heq⟩ => absurd ?_ hne⟩
      exact String.toList_eq_nil_iff.mp (Option.some.inj heq).symm
    | cons c cs =>
      simp only [Option.some.injEq]
      constructor
      · rintro rfl
        simp
      · rintro ⟨-, heq⟩
        rw [heq, String.ofList_toList]

/-- A path below a segment starts with it. -/
theorem firstSegment_of_below? {segment path rest : String} (hsegment : '.' ∉ segment.toList)
    (h : below? segment path = some rest) : firstSegment path = segment := by
  obtain ⟨-, hpath⟩ := below?_eq_some_iff.mp h
  exact firstSegment_eq hpath hsegment (by simp)

/-! ### Pairs that start with a segment -/

/-- The pairs whose keys start with a segment. -/
def named (kvs : KeyValues) : KeyValues := ⟨kvs.pairs.filter (firstSegment ·.1 != "")⟩

theorem named_eq_self_iff {kvs : KeyValues} :
    kvs.named = kvs ↔ ∀ p ∈ kvs.pairs, firstSegment p.1 ≠ "" := by
  obtain ⟨pairs⟩ := kvs
  simp [named, List.filter_eq_self]

theorem segments_named (kvs : KeyValues) : kvs.named.segments = kvs.segments := by
  rw [segments_eq, segments_eq, named, List.foldl_filter]
  congr 1
  funext seen pair
  rw [addSegment]
  by_cases h : firstSegment pair.1 = "" <;> simp [h]

theorem lookup_filter {α β : Type} [BEq α] [LawfulBEq α] {kept : α × β → Bool} {key : α}
    {pairs : List (α × β)} (h : ∀ p ∈ pairs, p.1 = key → kept p) :
    (pairs.filter kept).lookup key = pairs.lookup key := by
  induction pairs with
  | nil => rfl
  | cons p rest ih =>
    obtain ⟨hp, hrest⟩ := List.forall_mem_cons.mp h
    rw [List.filter_cons]
    split
    · rw [List.lookup_cons, List.lookup_cons, ih hrest]
    · rename_i hkept
      have hne : (key == p.1) = false := beq_false_of_ne fun heq => hkept (hp heq.symm)
      rw [List.lookup_cons, hne, ih hrest]

theorem mem_of_lookup {α β : Type} [BEq α] [LawfulBEq α] {key : α} {value : β}
    {pairs : List (α × β)} (h : pairs.lookup key = some value) : (key, value) ∈ pairs := by
  obtain ⟨before, later, rfl, -⟩ := List.lookup_eq_some_iff.mp h
  exact List.mem_append_right before List.mem_cons_self

/-- What is given for a segment is given by pairs whose keys start with it. -/
theorem select?_filter {kvs : KeyValues} {kept : String × String → Bool} {segment : String}
    (hsegment : '.' ∉ segment.toList)
    (h : ∀ p ∈ kvs.pairs, firstSegment p.1 = segment → kept p) :
    select? ⟨kvs.pairs.filter kept⟩ segment = kvs.select? segment := by
  have hlookup : (kvs.pairs.filter kept).reverse.lookup segment =
      kvs.pairs.reverse.lookup segment := by
    rw [← List.filter_reverse]
    refine lookup_filter fun p hp heq => h p (List.mem_reverse.mp hp) ?_
    have hpath : p.1.toList = segment.toList ++ [] := by rw [heq, List.append_nil]
    exact firstSegment_eq hpath hsegment nofun
  have hbelow : (kvs.pairs.filter kept).filterMap (fun p => (below? segment p.1).map (·, p.2)) =
      kvs.pairs.filterMap fun p => (below? segment p.1).map (·, p.2) := by
    rw [List.filterMap_filter]
    refine List.filterMap_congr fun p hp => ?_
    split
    · rfl
    · rename_i hkept
      cases hrest : below? segment p.1 with
      | none => rfl
      | some rest => exact absurd (h p hp (firstSegment_of_below? hsegment hrest)) hkept
  rw [select?, select?, hlookup, hbelow]

theorem select?_named {kvs : KeyValues} {segment : String} (h : segment ∈ kvs.segments) :
    kvs.named.select? segment = kvs.select? segment := by
  obtain ⟨hne, p, -, rfl⟩ := mem_segments.mp h
  refine select?_filter (dot_notMem_firstSegment p.1) fun q _ heq => ?_
  exact bne_iff_ne.mpr (heq ▸ hne)

/-- Pairs that all start with an index below a length. -/
def Accounted (kvs : KeyValues) (length : Nat) : Prop :=
  ∀ p ∈ kvs.pairs, ∃ k < length, Decimal.natural? UInt64.size (firstSegment p.1) = some k

end KeyValues

namespace OptionValue

open KeyValues

/-! ### Indexes -/

theorem index_eq_ok {segment : String} {out : Nat × String} :
    index segment = .ok out ↔
      Decimal.natural? UInt64.size segment = some out.1 ∧ out.2 = segment := by
  rw [index]
  cases Decimal.natural? UInt64.size segment with
  | none => simp
  | some n => simp [Prod.ext_iff, eq_comm]

/-- Segments that are found in the order of their indexes stay in it. -/
theorem indexed_of_counting {kvs : KeyValues} {found : List (Nat × String)}
    (hfound : kvs.segments.mapM index = .ok found)
    (hcount : found.map (·.1) = List.range found.length) :
    indexed kvs = .ok (found.map (·.2)) := by
  have hsorted : found.Pairwise fun a b => decide (a.1 ≤ b.1) := by
    have hrange : (found.map (·.1)).Pairwise (· ≤ ·) := hcount ▸ List.pairwise_le_range
    exact (List.pairwise_map.mp hrange).imp decide_eq_true
  rw [indexed, bind_of_eq_ok hfound, List.mergeSort_of_pairwise hsorted]
  exact if_pos hcount

/-- The segments of a list are those of its pairs, each standing at its index. -/
theorem indexed_eq_ok {kvs : KeyValues} {ordered : List String} (h : indexed kvs = .ok ordered) :
    ordered.Perm kvs.segments ∧
      ordered.map (Decimal.natural? UInt64.size) = (List.range ordered.length).map some := by
  obtain ⟨found, hfound, h⟩ := bind_eq_ok.mp h
  have hsorted : (found.mergeSort fun a b => decide (a.1 ≤ b.1)).Perm found :=
    List.mergeSort_perm found _
  dsimp only at h
  generalize found.mergeSort (fun a b => decide (a.1 ≤ b.1)) = sorted at h hsorted
  split at h
  · rename_i hrange
    cases h
    have hindex : ∀ x ∈ found, Decimal.natural? UInt64.size x.2 = some x.1 := fun x hx => by
      obtain ⟨segment, -, hsegment⟩ := exists_item (mapM_eq_ok.mp hfound) hx
      obtain ⟨hnumber, rfl⟩ := index_eq_ok.mp hsegment
      exact hnumber
    have hnames : found.map (·.2) = kvs.segments := by
      have hsame : List.Forall₂ Eq kvs.segments (found.map (·.2)) :=
        List.forall₂_map_right_iff.mpr
          ((mapM_eq_ok.mp hfound).imp fun _ _ hsegment => (index_eq_ok.mp hsegment).2.symm)
      exact (List.forall₂_eq_eq_eq ▸ hsame).symm
    refine ⟨hnames ▸ hsorted.map _, ?_⟩
    rw [List.length_map, ← hrange, List.map_map, List.map_map]
    exact List.map_congr_left fun x hx => hindex x (hsorted.mem_iff.mp hx)
  · cases h

/-- The segment of each pair is an index of the list. -/
theorem accounted_named {kvs : KeyValues} {ordered : List String} (h : indexed kvs = .ok ordered) :
    kvs.named.Accounted ordered.length := by
  obtain ⟨hperm, hindex⟩ := indexed_eq_ok h
  intro p hp
  obtain ⟨hp, hne⟩ := List.mem_filter.mp hp
  have hsegment : firstSegment p.1 ∈ ordered :=
    hperm.mem_iff.mpr (mem_segments.mpr ⟨bne_iff_ne.mp hne, p, hp, rfl⟩)
  have hnumber := List.mem_map_of_mem (f := Decimal.natural? UInt64.size) hsegment
  rw [hindex] at hnumber
  obtain ⟨k, hk, heq⟩ := List.mem_map.mp hnumber
  exact ⟨k, List.mem_range.mp hk, heq.symm⟩

/-- Each index of the list has a pair. -/
theorem exists_pair_of_index {kvs : KeyValues} {ordered : List String}
    (h : indexed kvs = .ok ordered) {k : Nat} (hk : k < ordered.length) :
    ∃ p ∈ kvs.pairs, Decimal.natural? UInt64.size (firstSegment p.1) = some k := by
  obtain ⟨hperm, hindex⟩ := indexed_eq_ok h
  have hnumber : some k ∈ ordered.map (Decimal.natural? UInt64.size) :=
    hindex ▸ List.mem_map_of_mem (List.mem_range.mpr hk)
  obtain ⟨segment, hsegment, heq⟩ := List.mem_map.mp hnumber
  obtain ⟨-, p, hp, rfl⟩ := mem_segments.mp (hperm.mem_iff.mp hsegment)
  exact ⟨p, hp, heq⟩

/-! ### Lists -/

variable {α : Type} [OptionValue α]

theorem ofPairs_list (kvs : KeyValues) :
    (ofPairs kvs : Except RpcError (List α)) = indexed kvs >>= List.mapM (required α kvs) :=
  rfl

/-- Pairs without a segment make no difference to a list. -/
theorem ofPairs_named (kvs : KeyValues) :
    (ofPairs kvs.named : Except RpcError (List α)) = ofPairs kvs := by
  have hindexed : indexed kvs.named = indexed kvs := by
    rw [indexed, indexed, segments_named]
  rw [ofPairs_list, ofPairs_list, hindexed]
  cases hordered : indexed kvs with
  | error error => rfl
  | ok ordered =>
    refine mapM_congr fun segment hsegment => ?_
    rw [required, required, select?_named ((indexed_eq_ok hordered).1.mem_iff.mp hsegment)]

/-- A list that was read is the one that the pairs with a segment give. It accounts for these, each
of which starts with an index of the list, and each index has a pair. It accounts for all pairs that
it was given just if all of them have a segment. -/
theorem accounted_iff {kvs : KeyValues} {items : List α} (h : ofPairs kvs = .ok items) :
    ofPairs kvs.named = .ok items ∧ kvs.named.Accounted items.length ∧
      (∀ k < items.length, ∃ p ∈ kvs.pairs,
        Decimal.natural? UInt64.size (firstSegment p.1) = some k) ∧
      (kvs.Accounted items.length ↔ ∀ p ∈ kvs.pairs, firstSegment p.1 ≠ "") := by
  obtain ⟨ordered, hordered, hitems⟩ := bind_eq_ok.mp h
  have hlength : ordered.length = items.length := (mapM_eq_ok.mp hitems).length_eq
  have hnamed : kvs.named.Accounted items.length := hlength ▸ accounted_named hordered
  refine ⟨(ofPairs_named kvs).trans h, hnamed,
    fun k hk => exists_pair_of_index hordered (hlength ▸ hk), fun hall p hp hempty => ?_,
    fun hall => ?_⟩
  · obtain ⟨k, -, hk⟩ := hall p hp
    rw [hempty] at hk
    cases hk
  · rwa [named_eq_self_iff.mpr hall] at hnamed

/-- A value without a key is lost among the items of a list. -/
theorem accounted_stray :
    let kvs : KeyValues := ⟨[("1", "b"), ("", "lost"), ("0", "a")]⟩
    ofPairs kvs = .ok ["a", "b"] ∧ ofPairs kvs.named = .ok ["a", "b"] ∧ kvs.named.Accounted 2 ∧
      (∀ k < 2, ∃ p ∈ kvs.pairs, Decimal.natural? UInt64.size (firstSegment p.1) = some k) ∧
      (kvs.Accounted 2 ↔ ∀ p ∈ kvs.pairs, firstSegment p.1 ≠ "") := by
  intro kvs
  have hfound : kvs.segments.mapM index = .ok [(1, "1"), (0, "0")] := by decide +kernel
  have hindexed : indexed kvs = .ok ["0", "1"] := by
    rw [indexed, bind_of_eq_ok hfound]
    simp [List.mergeSort]
    rfl
  have hread : ofPairs kvs = .ok ["a", "b"] := bind_of_eq_ok hindexed _
  exact ⟨hread, accounted_iff hread⟩

/-- A scalar, which is what is selected for a key with a value of its own, is read as a list without
items. -/
theorem not_accounted : ¬∀ (kvs selected : KeyValues) (key : String) (items : List String),
    kvs.select? key = some selected → ofPairs selected = .ok items →
      selected.Accounted items.length := by
  intro h
  have hselect : KeyValues.select? ⟨[("tags", "a")]⟩ "tags" = some (.ofScalar "a") := rfl
  have hread : ofPairs (.ofScalar "a") = .ok ([] : List String) := by decide +kernel
  obtain ⟨k, hk, -⟩ := h _ _ "tags" [] hselect hread ("", "a") List.mem_cons_self
  exact Nat.not_lt_zero k hk

end OptionValue

end RpcSchema.Options
