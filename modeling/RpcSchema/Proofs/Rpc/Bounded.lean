import RpcSchema.Proofs.Json.RoundTrip
import RpcSchema.Proofs.Rpc.Faithful

/-!
# Values that fit into an envelope

The text of an envelope gives back what fits into it, so besides being faithful the forms of the
values in it must not open too many containers. How many a form opens depends on its type only: none
for a scalar, one more than its items for a list, one more than its parts for an object. The floats
in a value must be ones that their texts give back.

## Main definitions

* `FloatsReadBack` — values whose floats are given back by their texts
* `Bounded` — types whose forms open a bounded number of containers

## Main results

* the instances of `Bounded` for scalars and lists
* `bounded_of_parts` — types written as objects
* `fits_insertSome` — members written one after the other
-/

namespace RpcSchema

open Json (Fits Members Token.ReadsBack)

/-- A value all of whose floats are given back by their texts. -/
def FloatsReadBack {α : Type} [HasFloats α] (v : α) : Prop :=
  ∀ x ∈ floats v, Token.ReadsBack x

/-- A type whose forms open at most `depth` containers. -/
class Bounded (α : Type) [Wire α] [HasFloats α] (depth : outParam Nat) : Prop where
  fits_toWire (v : α) (j : Json) : FloatsReadBack v → Wire.toWire v = .ok j → Fits depth j

variable {α β : Type}

/-- Fewer floats read back if more do. -/
theorem FloatsReadBack.mono [HasFloats α] [HasFloats β] {v : α} {w : β} (h : FloatsReadBack v)
    (hsub : floats w ⊆ floats v) : FloatsReadBack w :=
  fun x hx => h x (hsub hx)

/-! ### Scalars and lists -/

theorem fits_empty {depth : Nat} : Fits (depth + 1) (.object []) := .object (by simp) (by simp)

theorem isInteger_toInt (n : Int64) : Json.Token.IsInteger n.toInt :=
  ⟨n.minValue_le_toInt, Int.lt_of_le_of_lt n.toInt_le (by decide)⟩

instance : Bounded Int64 0 where
  fits_toWire n j _ h := by
    cases h
    exact .int (isInteger_toInt n)

instance : Bounded Bool 0 where
  fits_toWire b j _ h := by
    cases h
    exact .bool b

instance : Bounded String 0 where
  fits_toWire s j _ h := by
    cases h
    exact .string s

instance : Bounded Float 0 where
  fits_toWire x j hreads h := by
    rw [toWire_float] at h
    split at h
    · cases h
      exact .float (List.forall_mem_singleton.mp hreads)
    · cases h

instance : Bounded Unit 1 where
  fits_toWire _ j _ h := by
    cases h
    exact fits_empty

/-- An index is an integer. -/
theorem bounded_of_labelled [Labelled α] [BEq α] [LawfulBEq α] [HasFloats α]
    (hlength : (Labelled.values : List α).length ≤ Int64.maxValue.toInt) :
    @Bounded α Labelled.wire _ 0 := by
  let _ : Wire α := Labelled.wire
  refine ⟨fun v j _ h => ?_⟩
  cases h
  have hle : Labelled.index v ≤ (Labelled.values : List α).length := List.idxOf_le_length
  have hmax : Int64.maxValue.toInt < UInt64.size := by decide
  refine .int ⟨?_, by omega⟩
  rw [Int64.toInt_minValue]
  omega

instance {depth : Nat} [Wire α] [HasFloats α] [Bounded α depth] : Bounded (List α) (depth + 1) where
  fits_toWire items j hreads h := by
    rw [toWire_list] at h
    obtain ⟨forms, hforms, rfl⟩ := map_eq_ok.mp h
    refine .array fun form hform => ?_
    obtain ⟨item, hitem, hwrite⟩ := exists_item (mapM_eq_ok.mp hforms) hform
    exact Bounded.fits_toWire item form (List.forall_mem_flatMap.mp hreads item hitem) hwrite

/-! ### Members -/

theorem keys_insert (members : Members) (key : String) (value : Json) :
    (Members.insert key value members).map (·.1) =
      if key ∈ members.map (·.1) then members.map (·.1) else members.map (·.1) ++ [key] := by
  induction members with
  | nil => rfl
  | cons m rest ih =>
    rw [Members.insert]
    by_cases hk : m.1 = key
    · rw [if_pos hk, List.map_cons, List.map_cons, hk, if_pos List.mem_cons_self]
    · rw [if_neg hk, List.map_cons, ih, List.map_cons]
      simp only [List.mem_cons, Ne.symm hk, false_or]
      split <;> rfl

theorem mem_insert {members : Members} {key : String} {value : Json} {m : String × Json}
    (h : m ∈ Members.insert key value members) : m.2 = value ∨ m ∈ members := by
  induction members with
  | nil => exact .inl (congrArg Prod.snd (List.mem_singleton.mp h))
  | cons first rest ih =>
    rw [Members.insert] at h
    split at h
    · rcases List.mem_cons.mp h with rfl | h
      · exact .inl rfl
      · exact .inr (List.mem_cons_of_mem _ h)
    · rcases List.mem_cons.mp h with rfl | h
      · exact .inr List.mem_cons_self
      · exact (ih h).imp_right (List.mem_cons_of_mem _)

variable {depth : Nat} {members : Members}

/-- An object with one more member, or with one changed, still fits. -/
theorem fits_insert {value : Json} (key : String) (h : Fits (depth + 1) (.object members))
    (hvalue : Fits depth value) :
    Fits (depth + 1) (.object (Members.insert key value members)) := by
  cases h with
  | object hkeys hmembers =>
    refine .object ?_ fun m hm => ?_
    · rw [keys_insert]
      split
      · exact hkeys
      · rename_i hnew
        refine List.nodup_append.mpr ⟨hkeys, by simp, ?_⟩
        exact fun k hk other hother => List.mem_singleton.mp hother ▸ fun heq => hnew (heq ▸ hk)
    · rcases mem_insert hm with hm | hm
      · exact hm ▸ hvalue
      · exact hmembers m hm

/-! ### Objects -/

theorem floatsReadBack_some [HasFloats α] {v : α} : FloatsReadBack (some v) ↔ FloatsReadBack v := by
  simp [FloatsReadBack, floats]

/-- A part whose form opens at most `depth` containers. -/
def ObjectPart.Fits (depth : Nat) (part : ObjectPart) : Prop :=
  ∀ j, part.form = .ok (some j) → Json.Fits depth j

theorem ObjectPart.Fits.of [Wire α] [HasFloats α] {d : Nat} [Bounded α d] (hd : d ≤ depth)
    {key : String} {value : Option α} (hreads : FloatsReadBack value) :
    (ObjectPart.of key value).Fits depth := by
  intro j h
  cases value with
  | none => cases h
  | some v =>
    rw [ObjectPart.form_of_some] at h
    obtain ⟨form, hform, hj⟩ := map_eq_ok.mp h
    cases hj
    have hv : FloatsReadBack v := floatsReadBack_some.mp hreads
    exact (Bounded.fits_toWire v j hv (mapError_eq_ok.mp hform)).mono hd

theorem fits_writeParts {parts : List ObjectPart} {more : Members}
    (h : Fits (depth + 1) (.object members)) (hparts : ∀ part ∈ parts, part.Fits depth)
    (hwrite : writeParts members parts = .ok more) : Fits (depth + 1) (.object more) := by
  induction parts generalizing members with
  | nil =>
    cases hwrite
    exact h
  | cons part rest ih =>
    obtain ⟨hpart, hrest⟩ := List.forall_mem_cons.mp hparts
    obtain ⟨form, hform, hwrite⟩ := bind_eq_ok.mp hwrite
    cases form with
    | none => exact ih h hrest hwrite
    | some j => exact ih (fits_insert part.key h (hpart j hform)) hrest hwrite

/-- A member that is alone in an object fits if it does so by itself. -/
theorem fits_insertSome [Wire α] [HasFloats α] [Bounded α depth] {key : String}
    {value : Option α} {more : Members} (hreads : FloatsReadBack value)
    (h : Wire.insertSome [] key value = .ok more) : Fits (depth + 1) (.object more) := by
  rw [insertSome_eq] at h
  exact fits_writeParts fits_empty (List.forall_mem_singleton.mpr (.of le_rfl hreads)) h

/-- The form of a type opens one container more than its parts. -/
theorem bounded_of_parts [Wire α] [HasFloats α] (parts : α → List ObjectPart)
    (hwrite : ∀ v, Wire.toWire v = writeObject [] (parts v))
    (hparts : ∀ v, FloatsReadBack v → ∀ part ∈ parts v, part.Fits depth) :
    Bounded α (depth + 1) where
  fits_toWire v j hreads h := by
    rw [hwrite] at h
    obtain ⟨members, hmembers, rfl⟩ := map_eq_ok.mp h
    exact fits_writeParts fits_empty (hparts v hreads) hmembers

end RpcSchema
