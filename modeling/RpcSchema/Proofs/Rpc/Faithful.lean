import RpcSchema.Labelled
import RpcSchema.Proofs.Success

/-!
# Values that survive the wire

A form on the wire is faithful if a value can be written exactly if all floats inside it are
finite, and what was written reads back as the same value. Scalars have faithful forms, and lists
inherit them from their items.

Objects are written part by part, each under a key of its own, and read back by key. Which parts an
object has, and in which order they are written, then no longer matters: `faithful_of_parts` leaves
for each type only to name its parts and to read them.

## Main definitions

* `HasFloats`, `FloatsFinite` — the floats inside a value
* `Faithful` — a form from which every value comes back
* `ObjectPart`, `writeParts` — the parts of an object

## Main results

* the instances of `Faithful` for scalars and lists
* `faithful_of_labelled` — enumerations
* `writeParts_ok` — each part is found under its key, and nothing else
* `part_of_insertSome`, `required_of_insert` — members written by themselves
* `faithful_of_parts` — types written as objects
-/

namespace RpcSchema

open Json (Members)

/-! ### Faithful forms -/

/-- The floats inside the values of a type. -/
class HasFloats (α : Type) where
  floats : α → List Float

export HasFloats (floats)

/-- A value all of whose floats are finite. -/
def FloatsFinite {α : Type} [HasFloats α] (v : α) : Prop := ∀ x ∈ floats v, x.isFinite

/-- A form that just the values of finite floats have, and that reads back as the value. -/
class Faithful (α : Type) [Wire α] [HasFloats α] : Prop where
  exists_toWire (v : α) : (∃ j, Wire.toWire v = .ok j) ↔ FloatsFinite v
  ofWire_toWire (v : α) (j : Json) : Wire.toWire v = .ok j → Wire.ofWire j = .ok v

variable {α : Type}

/-! ### Scalars -/

instance : HasFloats Int64 := ⟨fun _ => []⟩

instance : HasFloats Bool := ⟨fun _ => []⟩

instance : HasFloats Float := ⟨fun x => [x]⟩

instance : HasFloats String := ⟨fun _ => []⟩

instance : HasFloats Unit := ⟨fun _ => []⟩

theorem isWord_iff {n : Int} :
    Json.isWord n ↔ Int64.minValue.toInt ≤ n ∧ n ≤ Int64.maxValue.toInt := by
  rw [Json.isWord, Bool.and_eq_true, decide_eq_true_eq, decide_eq_true_eq]

theorem isWord_toInt (n : Int64) : Json.isWord n.toInt :=
  isWord_iff.mpr ⟨n.minValue_le_toInt, n.toInt_le⟩

theorem ofWire_int {n : Int} (h : Json.isWord n) :
    Wire.ofWire (.int n) = Except.ok (Int64.ofInt n) := by
  simp only [Wire.ofWire, Json.word?, if_pos h, Wire.expect, Except.map]

theorem toInt_ofInt_of_isWord {n : Int} (h : Json.isWord n) : (Int64.ofInt n).toInt = n := by
  obtain ⟨hle, hge⟩ := isWord_iff.mp h
  rw [← Int64.ofIntLE_eq_ofInt hle hge, Int64.toInt_ofIntLE]

instance : Faithful Int64 where
  exists_toWire n := ⟨fun _ => nofun, fun _ => ⟨_, rfl⟩⟩
  ofWire_toWire n j h := by
    cases h
    rw [ofWire_int (isWord_toInt n), Int64.ofInt_toInt]

instance : Faithful Bool where
  exists_toWire b := ⟨fun _ => nofun, fun _ => ⟨_, rfl⟩⟩
  ofWire_toWire b j h := by
    cases h
    rfl

theorem floatsFinite_float {x : Float} : FloatsFinite x ↔ x.isFinite := List.forall_mem_singleton

theorem toWire_float (x : Float) :
    Wire.toWire x = if x.isFinite then .ok (.float x) else .error (.wrongValue "a finite number") :=
  rfl

instance : Faithful Float where
  exists_toWire x := by
    rw [floatsFinite_float, toWire_float]
    by_cases hx : x.isFinite
    · simp [hx]
    · simp [hx]
  ofWire_toWire x j h := by
    rw [toWire_float] at h
    by_cases hx : x.isFinite
    · rw [if_pos hx] at h
      cases h
      rfl
    · rw [if_neg hx] at h
      cases h

instance : Faithful String where
  exists_toWire s := ⟨fun _ => nofun, fun _ => ⟨_, rfl⟩⟩
  ofWire_toWire s j h := by
    cases h
    rfl

instance : Faithful Unit where
  exists_toWire _ := ⟨fun _ => nofun, fun _ => ⟨_, rfl⟩⟩
  ofWire_toWire _ _ _ := rfl

/-! ### Enumerations -/

section

variable [Labelled α] [BEq α] [LawfulBEq α]

theorem index_lt {v : α} (hv : v ∈ (Labelled.values : List α)) :
    Labelled.index v < (Labelled.values : List α).length :=
  List.idxOf_lt_length_of_mem hv

theorem ofIndex_index {v : α} (hv : v ∈ (Labelled.values : List α)) :
    Labelled.ofIndex (Labelled.index v : Int) = .ok v := by
  have hplace : Labelled.ofIndex? (α := α) (Labelled.index v : Int) = some v := by
    rw [Labelled.ofIndex?, if_neg (by omega), Int.toNat_natCast,
      List.getElem?_eq_getElem (index_lt hv)]
    exact congrArg some (List.getElem_idxOf (index_lt hv))
  rw [Labelled.ofIndex, hplace]

/-- An index goes through a word unchanged. -/
theorem ofWire_index {v : α} (hv : v ∈ (Labelled.values : List α))
    (hlength : (Labelled.values : List α).length ≤ Int64.maxValue.toInt) : ∃ n : Int64,
      Wire.ofWire (.int (Labelled.index v)) = Except.ok n ∧ Labelled.ofIndex n.toInt = .ok v := by
  have hlt := index_lt hv
  have hword : Json.isWord (Labelled.index v : Int) :=
    isWord_iff.mpr ⟨by rw [Int64.toInt_minValue]; omega, by omega⟩
  refine ⟨_, ofWire_int hword, ?_⟩
  rw [toInt_ofInt_of_isWord hword, ofIndex_index hv]

/-- A value is read back from its index. -/
theorem faithful_of_labelled [HasFloats α] (hfloats : ∀ v : α, floats v = [])
    (hvalues : ∀ v : α, v ∈ (Labelled.values : List α))
    (hlength : (Labelled.values : List α).length ≤ Int64.maxValue.toInt) :
    @Faithful α Labelled.wire _ := by
  let _ : Wire α := Labelled.wire
  refine ⟨fun v => ⟨fun _ => ?_, fun _ => ⟨_, rfl⟩⟩, fun v j h => ?_⟩
  · rw [FloatsFinite, hfloats]
    exact nofun
  · cases h
    exact bind_eq_ok.mpr (ofWire_index (hvalues v) hlength)

end

/-! ### Lists -/

instance [HasFloats α] : HasFloats (List α) := ⟨fun items => items.flatMap floats⟩

theorem floatsFinite_list [HasFloats α] {items : List α} :
    FloatsFinite items ↔ ∀ item ∈ items, FloatsFinite item :=
  List.forall_mem_flatMap

theorem toWire_list [Wire α] (items : List α) :
    Wire.toWire items = (items.mapM Wire.toWire).map .array :=
  rfl

theorem ofWire_array [Wire α] (forms : List Json) :
    (Wire.ofWire (.array forms) : Except RpcError (List α)) = forms.mapM Wire.ofWire :=
  rfl

instance [Wire α] [HasFloats α] [Faithful α] : Faithful (List α) where
  exists_toWire items := by
    rw [floatsFinite_list, toWire_list, exists_map_eq_ok, exists_mapM_eq_ok]
    exact forall₂_congr fun item _ => Faithful.exists_toWire item
  ofWire_toWire items j h := by
    rw [toWire_list] at h
    obtain ⟨forms, hforms, rfl⟩ := map_eq_ok.mp h
    rw [ofWire_array, mapM_eq_ok]
    exact (mapM_eq_ok.mp hforms).flip.imp fun form item => Faithful.ofWire_toWire item form

/-! ### Parts of objects -/

/-- A part of an object: its key, and the form of its value if there is one. -/
structure ObjectPart where
  key : String
  form : Except RpcError (Option Json)

/-- The part for a value that may be absent. -/
def ObjectPart.of [Wire α] (key : String) (value : Option α) : ObjectPart where
  key := key
  form :=
    match value with
    | some v => (RpcError.atKey key (Wire.toWire v)).map some
    | none => .ok none

theorem ObjectPart.form_of_some [Wire α] (key : String) (v : α) :
    (ObjectPart.of key (some v)).form = (RpcError.atKey key (Wire.toWire v)).map some :=
  rfl

/-- A part that is found is the form of its value. -/
theorem get?_of_part [Wire α] {members : Members} {key : String} {v : α}
    (h : (ObjectPart.of key (some v)).form = .ok (members.get? key)) :
    ∃ j, members.get? key = some j ∧ Wire.toWire v = .ok j := by
  rw [ObjectPart.form_of_some] at h
  obtain ⟨j, hj, hget⟩ := map_eq_ok.mp h
  exact ⟨j, hget.symm, mapError_eq_ok.mp hj⟩

/-- The members with some parts written after them. -/
def writeParts (members : Members) : List ObjectPart → Except RpcError Members
  | [] => .ok members
  | part :: rest => do
    match ← part.form with
    | some j => writeParts (Members.insert part.key j members) rest
    | none => writeParts members rest

/-- The object of some members with some parts written after them. -/
def writeObject (members : Members) (parts : List ObjectPart) : Except RpcError Json :=
  (writeParts members parts).map .object

theorem writeObject_nil (members : Members) : writeObject members [] = .ok (.object members) := rfl

theorem writeObject_cons [Wire α] (members : Members) (key : String) (value : Option α)
    (rest : List ObjectPart) : writeObject members (.of key value :: rest) =
      Wire.insertSome members key value >>= fun more => writeObject more rest := by
  cases value with
  | none => rfl
  | some v =>
    rw [writeObject, writeParts, ObjectPart.of, Wire.insertSome, Wire.insert]
    cases RpcError.atKey key (Wire.toWire v) with
    | error e => rfl
    | ok j => rfl

theorem get?_cons (k key : String) (v : Json) (rest : Members) :
    Members.get? ((k, v) :: rest) key = if key = k then some v else rest.get? key := by
  rw [Members.get?, List.lookup_cons]
  by_cases h : key = k
  · simp [h]
  · rw [if_neg h, beq_false_of_ne h]
    rfl

theorem get?_insert_self (members : Members) (key : String) (value : Json) :
    (Members.insert key value members).get? key = some value := by
  induction members with
  | nil => rw [Members.insert, get?_cons, if_pos rfl]
  | cons member rest ih =>
    rw [Members.insert]
    by_cases hk : member.1 = key
    · rw [if_pos hk, get?_cons, if_pos hk.symm]
    · rw [if_neg hk, get?_cons, if_neg (Ne.symm hk), ih]

theorem get?_insert_of_ne {members : Members} {key other : String} {value : Json}
    (h : other ≠ key) :
    (Members.insert key value members).get? other = members.get? other := by
  induction members with
  | nil => rw [Members.insert, get?_cons, if_neg h]
  | cons member rest ih =>
    rw [Members.insert]
    by_cases hk : member.1 = key
    · have hne : other ≠ member.1 := hk ▸ h
      rw [if_pos hk, get?_cons, get?_cons, if_neg hne, if_neg hne]
    · rw [if_neg hk, get?_cons, get?_cons, ih]

theorem required_eq_ok [Wire α] {members : Members} {key : String} {j : Json} {v : α}
    (hget : members.get? key = some j) (hj : Wire.ofWire j = .ok v) :
    Wire.required α members key = .ok v := by
  rw [Wire.required, hget]
  exact mapError_eq_ok.mpr hj

theorem optional_eq_ok [Wire α] {members : Members} {key : String} {j : Json} {v : α}
    (hget : members.get? key = some j) (hj : Wire.ofWire j = .ok v) :
    Wire.optional α members key = .ok (some v) := by
  rw [Wire.optional, hget]
  exact map_eq_ok.mpr ⟨v, mapError_eq_ok.mpr hj, rfl⟩

/-- Parts with keys of their own are found under them, absent ones as absent. What was there under
another key still is. -/
theorem writeParts_ok {members more : Members} {parts : List ObjectPart}
    (h : writeParts members parts = .ok more) (hnodup : (parts.map ObjectPart.key).Nodup)
    (hnew : ∀ part ∈ parts, members.get? part.key = none) :
    (∀ part ∈ parts, part.form = .ok (more.get? part.key)) ∧
      ∀ key ∉ parts.map ObjectPart.key, more.get? key = members.get? key := by
  induction parts generalizing members with
  | nil =>
    cases h
    exact ⟨nofun, fun _ _ => rfl⟩
  | cons part rest ih =>
    obtain ⟨form, hform, h⟩ := bind_eq_ok.mp h
    rw [List.map_cons, List.nodup_cons] at hnodup
    obtain ⟨hpart, hrest⟩ := List.forall_mem_cons.mp hnew
    cases form with
    | none =>
      obtain ⟨hforms, hothers⟩ := ih h hnodup.2 hrest
      refine ⟨List.forall_mem_cons.mpr ⟨?_, hforms⟩, fun key hkey => ?_⟩
      · rw [hothers _ hnodup.1, hpart, hform]
      · exact hothers key fun hmem => hkey (List.mem_cons_of_mem _ hmem)
    | some j =>
      have hne : ∀ other ∈ rest, other.key ≠ part.key := fun other hother heq =>
        hnodup.1 (heq ▸ List.mem_map_of_mem hother)
      obtain ⟨hforms, hothers⟩ := ih h hnodup.2 fun other hother => by
        rw [get?_insert_of_ne (hne other hother), hrest other hother]
      refine ⟨List.forall_mem_cons.mpr ⟨?_, hforms⟩, fun key hkey => ?_⟩
      · rw [hothers _ hnodup.1, get?_insert_self, hform]
      · rw [List.map_cons, List.mem_cons, not_or] at hkey
        rw [hothers key hkey.2, get?_insert_of_ne hkey.1]

/-- Parts can be written exactly if each of them can. -/
theorem exists_writeParts {members : Members} {parts : List ObjectPart} :
    (∃ more, writeParts members parts = .ok more) ↔
      ∀ part ∈ parts, ∃ form, part.form = .ok form := by
  induction parts generalizing members with
  | nil => simp [writeParts]
  | cons part rest ih =>
    rw [List.forall_mem_cons]
    constructor
    · rintro ⟨more, h⟩
      obtain ⟨form, hform, h⟩ := bind_eq_ok.mp h
      cases form with
      | none => exact ⟨⟨_, hform⟩, ih.mp ⟨more, h⟩⟩
      | some j => exact ⟨⟨_, hform⟩, ih.mp ⟨more, h⟩⟩
    · rintro ⟨⟨form, hform⟩, hrest⟩
      cases form with
      | none =>
        obtain ⟨more, h⟩ : ∃ more, writeParts members rest = .ok more := ih.mpr hrest
        exact ⟨more, bind_eq_ok.mpr ⟨none, hform, h⟩⟩
      | some j =>
        obtain ⟨more, h⟩ : ∃ more, writeParts (Members.insert part.key j members) rest = .ok more :=
          ih.mpr hrest
        exact ⟨more, bind_eq_ok.mpr ⟨some j, hform, h⟩⟩

/-! ### Objects -/

instance [HasFloats α] : HasFloats (Option α) := ⟨fun value => value.toList.flatMap floats⟩

theorem floatsFinite_option [HasFloats α] {value : Option α} :
    FloatsFinite value ↔ ∀ v ∈ value, FloatsFinite v := by
  cases value with
  | none => exact ⟨nofun, nofun⟩
  | some v => simp [FloatsFinite, floats]

theorem floatsFinite_some [HasFloats α] {v : α} : FloatsFinite (some v) ↔ FloatsFinite v := by
  simp [floatsFinite_option]

section

variable [Wire α] [HasFloats α] [Faithful α]

theorem exists_partOf {key : String} {value : Option α} :
    (∃ form, (ObjectPart.of key value).form = .ok form) ↔ FloatsFinite value := by
  rw [floatsFinite_option]
  cases value with
  | none => exact ⟨nofun, fun _ => ⟨none, rfl⟩⟩
  | some v =>
    rw [ObjectPart.form_of_some, exists_map_eq_ok, RpcError.atKey, exists_mapError_eq_ok,
      Faithful.exists_toWire]
    simp

/-- A part that may be absent is read as it was written. -/
theorem optional_of_part {members : Members} {key : String} {value : Option α}
    (h : (ObjectPart.of key value).form = .ok (members.get? key)) :
    Wire.optional α members key = .ok value := by
  cases value with
  | none =>
    have hget : none = members.get? key := Except.ok.inj h
    rw [Wire.optional, ← hget]
  | some v =>
    obtain ⟨j, hget, hj⟩ := get?_of_part h
    exact optional_eq_ok hget (Faithful.ofWire_toWire v j hj)

/-- A part that must be there is read as it was written. -/
theorem required_of_part {members : Members} {key : String} {v : α}
    (h : (ObjectPart.of key (some v)).form = .ok (members.get? key)) :
    Wire.required α members key = .ok v := by
  obtain ⟨j, hget, hj⟩ := get?_of_part h
  exact required_eq_ok hget (Faithful.ofWire_toWire v j hj)

end

/-! ### Members by themselves -/

/-- A member that may be absent is a part. -/
theorem insertSome_eq [Wire α] (members : Members) (key : String) (value : Option α) :
    Wire.insertSome members key value = writeParts members [.of key value] := by
  cases value with
  | none => rfl
  | some v =>
    rw [Wire.insertSome, Wire.insert, writeParts, ObjectPart.form_of_some]
    cases RpcError.atKey key (Wire.toWire v) <;> rfl

/-- A member can be written after none exactly if its floats are finite. -/
theorem exists_insertSome [Wire α] [HasFloats α] [Faithful α] {key : String} {value : Option α} :
    (∃ more, Wire.insertSome [] key value = .ok more) ↔ FloatsFinite value := by
  rw [insertSome_eq, exists_writeParts, List.forall_mem_singleton, exists_partOf]

/-- A member that is alone in an object is read as it was written. -/
theorem part_of_insertSome [Wire α] {key : String} {value : Option α} {more : Members}
    (h : Wire.insertSome [] key value = .ok more) :
    (ObjectPart.of key value).form = .ok (more.get? key) := by
  rw [insertSome_eq] at h
  have hnodup : ([ObjectPart.of key value].map ObjectPart.key).Nodup := by simp
  exact (writeParts_ok h hnodup fun _ _ => rfl).1 _ List.mem_cons_self

theorem required_of_insert [Wire α] [HasFloats α] [Faithful α] {key : String} {v : α}
    {more : Members} (h : Wire.insert [] key v = .ok more) : Wire.required α more key = .ok v := by
  change Wire.insertSome [] key (some v) = .ok more at h
  exact required_of_part (part_of_insertSome h)

/-! ### Unions and handles -/

/-- Nothing is wrong with an object that has no member of a union but the active one. -/
theorem ensureSingleMember_eq_ok {members : Members} {names : List String} {active : String}
    (union : String) (hnodup : names.Nodup)
    (h : ∀ name ∈ names, name ≠ active → members.get? name = none) :
    Wire.ensureSingleMember members union names active = .ok () := by
  have hactive : ∀ name ∈ names.filter members.contains, name = active := by
    intro name hname
    obtain ⟨hname, hpresent⟩ := List.mem_filter.mp hname
    by_contra hne
    rw [Members.contains, h name hname hne] at hpresent
    cases hpresent
  have hlength : (names.filter members.contains).length ≤ 1 := by
    have hpresent : (names.filter members.contains).Nodup := hnodup.filter _
    rw [List.eq_replicate_of_mem hactive, List.nodup_replicate] at hpresent
    exact hpresent
  have hother : (names.filter members.contains).any (· != active) = false := by
    simpa using hactive
  rw [Wire.ensureSingleMember]
  simp only [hother, Bool.or_false, decide_eq_true_eq]
  rw [if_neg (by omega)]

theorem unwrapHandle_wrapHandle (name : String) (payload : Json) :
    Wire.unwrapHandle name (Wire.wrapHandle name payload) = .ok payload := by
  have hmark : Members.get? [(Wire.handleMarker, .string name), ("data", payload)]
      Wire.handleMarker = some (.string name) := rfl
  have hdata : Members.get? [(Wire.handleMarker, .string name), ("data", payload)] "data" =
      some payload := rfl
  refine bind_eq_ok.mpr ⟨_, rfl, ?_⟩
  simp only [hmark, hdata, Json.string?, bne_self_eq_false, Bool.false_eq_true, if_false]
  rfl

/-- A type is faithful if its values are written part by part and reading the parts gives the value
back. -/
theorem faithful_of_parts [Wire α] [HasFloats α] (parts : α → List ObjectPart)
    (hkeys : ∀ v, ((parts v).map ObjectPart.key).Nodup)
    (hwrite : ∀ v, Wire.toWire v = writeObject [] (parts v))
    (hfinite : ∀ v, FloatsFinite v ↔ ∀ part ∈ parts v, ∃ form, part.form = .ok form)
    (hread : ∀ v (members : Members),
      (∀ part ∈ parts v, part.form = .ok (members.get? part.key)) →
      (∀ key ∉ (parts v).map ObjectPart.key, members.get? key = none) →
      Wire.ofWire (.object members) = Except.ok v) : Faithful α where
  exists_toWire v := by
    rw [hwrite, writeObject, exists_map_eq_ok, exists_writeParts, hfinite]
  ofWire_toWire v j h := by
    rw [hwrite] at h
    obtain ⟨members, hmembers, rfl⟩ := map_eq_ok.mp h
    obtain ⟨hforms, hothers⟩ := writeParts_ok hmembers (hkeys v) fun _ _ => rfl
    exact hread v members hforms fun key hkey => hothers key hkey

end RpcSchema
