import RpcSchema.Drawing.Wire
import RpcSchema.Proofs.Rpc.Members

/-!
# Which objects are geometries

A geometry is read in three steps: its kind, the member that is named for the kind, and then a look
at the members of all other kinds, none of which may be there. The steps go in this order, so each
can only fail where those before it succeeded, and the error tells which one it was.

## Main definitions

* `Geometry.ReadFrom` — the values that a geometry of a kind is read from
* `Geometry.ofKind` — the member named for a kind, read as a geometry of that kind

## Main results

* `ofWire_labelled_eq_ok_iff` — an enumeration is read from the places of its values only
* `Geometry.ofWire_object` — the three steps
* `Geometry.ofWire_eq_iff` — when they succeed, and how the last two fail
-/

namespace RpcSchema

/-! ### Kinds -/

/-- A word is read from its number, and from nothing else. -/
theorem ofWire_word_eq_ok_iff {j : Json} {n : Int64} :
    Wire.ofWire j = .ok n ↔ j = .int n.toInt := by
  constructor
  · intro h
    obtain ⟨m, hm, rfl⟩ := map_eq_ok.mp h
    cases j with
    | int k =>
      rw [Json.word?] at hm
      by_cases hk : Json.isWord k
      · rw [if_pos hk] at hm
        cases hm
        rw [toInt_ofInt_of_isWord hk]
      · rw [if_neg hk] at hm
        cases hm
    | _ => cases hm
  · rintro rfl
    rw [ofWire_int (isWord_toInt n), Int64.ofInt_toInt]

section

variable {α : Type} [Labelled α] {v : α}

theorem ofIndex_eq_ok_iff {m : Int} : Labelled.ofIndex m = .ok v ↔
    ∃ n : Nat, m = n ∧ (Labelled.values : List α)[n]? = some v := by
  have hplace : Labelled.ofIndex m = .ok v ↔ Labelled.ofIndex? m = some v := by
    rw [Labelled.ofIndex]
    cases Labelled.ofIndex? (α := α) m <;> simp
  rw [hplace, Labelled.ofIndex?]
  by_cases hm : m < 0
  · rw [if_pos hm]
    constructor
    · intro h
      cases h
    · rintro ⟨n, rfl, -⟩
      omega
  · obtain ⟨n, rfl⟩ := Int.eq_ofNat_of_zero_le (Int.not_lt.mp hm)
    rw [if_neg hm, Int.toNat_natCast]
    refine ⟨fun h => ⟨n, rfl, h⟩, ?_⟩
    rintro ⟨k, hk, h⟩
    rwa [Int.ofNat_inj.mp hk]

/-- A value of an enumeration is read from its place, and from nothing else. -/
theorem ofWire_labelled_eq_ok_iff [BEq α]
    (hlength : (Labelled.values : List α).length ≤ Int64.maxValue.toInt) {j : Json} :
    Labelled.wire.ofWire j = .ok v ↔
      ∃ n : Nat, j = .int n ∧ (Labelled.values : List α)[n]? = some v := by
  rw [show Labelled.wire.ofWire j = Wire.ofWire j >>= fun m : Int64 => Labelled.ofIndex m.toInt
    from rfl, bind_eq_ok]
  simp only [ofWire_word_eq_ok_iff, ofIndex_eq_ok_iff]
  constructor
  · rintro ⟨m, rfl, n, hm, hn⟩
    exact ⟨n, congrArg Json.int hm, hn⟩
  · rintro ⟨n, rfl, hn⟩
    have hlt : n < (Labelled.values : List α).length := (List.getElem?_eq_some_iff.mp hn).1
    have hword : Json.isWord (n : Int) :=
      isWord_iff.mpr ⟨by rw [Int64.toInt_minValue]; omega, by omega⟩
    exact ⟨.ofInt n, by rw [toInt_ofInt_of_isWord hword], n, toInt_ofInt_of_isWord hword, hn⟩

end

namespace Drawing

open Json (Members)
open RpcSchema.Wire

/-- The kind is the place of one. -/
theorem required_kind_eq_ok_iff {members : Members} {kind : GeometryKind} :
    required GeometryKind members "kind" = .ok kind ↔ ∃ n : Nat,
      members.get? "kind" = some (.int n) ∧
        (Labelled.values : List GeometryKind)[n]? = some kind := by
  rw [required_eq_ok_iff]
  constructor
  · rintro ⟨j, hj, hread⟩
    obtain ⟨n, rfl, hn⟩ := (ofWire_labelled_eq_ok_iff (by decide)).mp hread
    exact ⟨n, hj, hn⟩
  · rintro ⟨n, hj, hn⟩
    exact ⟨_, hj, (ofWire_labelled_eq_ok_iff (by decide)).mpr ⟨n, rfl, hn⟩⟩

namespace Geometry

/-! ### The three steps -/

/-- A geometry is read from a value as one of its kind. -/
def ReadFrom (j : Json) : Geometry → Prop
  | .point p => ofWire j = .ok p
  | .shape s => ofWire j = .ok s
  | .radius r => ofWire j = .ok r

/-- The member named for a kind, read as a geometry of that kind. -/
def ofKind (members : Members) : GeometryKind → Except RpcError Geometry
  | .point => Geometry.point <$> required Point members "point"
  | .shape => Geometry.shape <$> required Shape members "shape"
  | .radius => Geometry.radius <$> required Float members "radius"

theorem ofWire_object (members : Members) : ofWire (.object members) = (do
    let kind ← required GeometryKind members "kind"
    let geometry ← ofKind members kind
    ensureSingleMember members "Geometry" (Labelled.labels GeometryKind) (Labelled.label kind)
    return geometry) := by
  have hkind : required GeometryKind members "kind" =
      required Int64 members "kind" >>= fun index =>
        RpcError.atKey "kind" (Labelled.ofIndex index.toInt) := by
    rw [required, required]
    cases members.get? "kind" with
    | none => rfl
    | some j => exact atKey_bind "kind" (ofWire j) fun index : Int64 => Labelled.ofIndex index.toInt
  rw [hkind, bind_assoc]
  show (required Int64 members "kind" >>= _) = _
  refine congrArg _ (funext fun index => ?_)
  refine congrArg _ (funext fun kind => ?_)
  cases kind <;> rfl

/-- The member named for a kind can be read just if it is there and gives a geometry of the kind. -/
theorem ofKind_eq_ok_iff {members : Members} {kind : GeometryKind} {g : Geometry} :
    ofKind members kind = .ok g ↔
      g.kind = kind ∧ ∃ j, members.get? (Labelled.label kind) = some j ∧ g.ReadFrom j := by
  have hmap {α : Type} [Wire α] (make : α → Geometry) (key : String) :
      make <$> required α members key = .ok g ↔
        ∃ v, make v = g ∧ ∃ j, members.get? key = some j ∧ ofWire j = .ok v := by
    rw [show make <$> required α members key = (required α members key).map make from rfl,
      map_eq_ok]
    simp only [required_eq_ok_iff, and_comm]
  cases kind with
  | point =>
    refine (hmap .point "point").trans ?_
    cases g <;> simp [kind, ReadFrom, Labelled.label]
  | shape =>
    refine (hmap .shape "shape").trans ?_
    cases g <;> simp [kind, ReadFrom, Labelled.label]
  | radius =>
    refine (hmap .radius "radius").trans ?_
    cases g <;> simp [kind, ReadFrom, Labelled.label]

theorem ofKind_of_none {members : Members} {kind : GeometryKind}
    (h : members.get? (Labelled.label kind) = none) :
    ofKind members kind = .error (.missingParameter (Labelled.label kind)) := by
  have hmap {α : Type} [Wire α] (make : α → Geometry) {key : String}
      (hkey : members.get? key = none) :
      make <$> required α members key = .error (.missingParameter key) := by
    rw [required_of_none hkey]
    rfl
  cases kind with
  | point => exact hmap .point h
  | shape => exact hmap .shape h
  | radius => exact hmap .radius h

/-- No member named for another kind is there. -/
def Single (members : Members) (kind : GeometryKind) : Prop :=
  ∀ other ≠ kind, members.get? (Labelled.label other) = none

theorem ensureSingleMember_of_single {members : Members} {kind : GeometryKind}
    (h : Single members kind) : ensureSingleMember members "Geometry"
      (Labelled.labels GeometryKind) (Labelled.label kind) = .ok () := by
  rw [ensureSingleMember_eq members "Geometry" (by decide), if_pos]
  intro name hname hne
  obtain ⟨other, -, rfl⟩ := List.mem_map.mp hname
  exact h other fun heq => hne (congrArg _ heq)

theorem ensureSingleMember_of_not_single {members : Members} {kind : GeometryKind}
    (h : ¬ Single members kind) : ensureSingleMember members "Geometry"
      (Labelled.labels GeometryKind) (Labelled.label kind) =
        .error (.unionConstraint "Geometry"
          ((Labelled.labels GeometryKind).filter members.contains)) := by
  rw [ensureSingleMember_eq members "Geometry" (by decide), if_neg]
  intro hnames
  refine h fun other hne => hnames _ (List.mem_map_of_mem ?_) ?_
  · cases other <;> decide
  · revert hne
    cases other <;> cases kind <;> decide

/-! ### All three -/

/-- An object is a geometry just if all three steps succeed. -/
theorem ofWire_object_eq_ok_iff {members : Members} {g : Geometry} :
    ofWire (.object members) = .ok g ↔ required GeometryKind members "kind" = .ok g.kind ∧
      (∃ j, members.get? (Labelled.label g.kind) = some j ∧ g.ReadFrom j) ∧
      Single members g.kind := by
  rw [ofWire_object]
  constructor
  · intro h
    obtain ⟨kind, hkind, h⟩ := bind_eq_ok.mp h
    obtain ⟨read, hread, h⟩ := bind_eq_ok.mp h
    obtain ⟨hensured, ⟨⟩⟩ := check_bind_eq_ok.mp h
    obtain ⟨rfl, hpayload⟩ := ofKind_eq_ok_iff.mp hread
    refine ⟨hkind, hpayload, ?_⟩
    by_contra hsingle
    rw [ensureSingleMember_of_not_single hsingle] at hensured
    cases hensured
  · rintro ⟨hkind, hpayload, hsingle⟩
    refine bind_eq_ok.mpr ⟨g.kind, hkind, ?_⟩
    refine bind_eq_ok.mpr ⟨g, ofKind_eq_ok_iff.mpr ⟨rfl, hpayload⟩, ?_⟩
    exact check_bind_eq_ok.mpr ⟨ensureSingleMember_of_single hsingle, rfl⟩

/-- Only an object is a geometry. -/
theorem exists_members_of_ofWire {value : Json} {g : Geometry} (h : ofWire value = .ok g) :
    ∃ members, value = .object members := by
  obtain ⟨members, hmembers, -⟩ := bind_eq_ok.mp h
  cases value <;> cases hmembers
  exact ⟨members, rfl⟩

/-- A geometry is read just if the kind is the place of one, the member named for it is there and
gives the geometry, and no member named for another kind is there; other members do not matter. If
the member is missing then it is named, and if it gives a geometry but others are there, then all
that are there are named in the order of the kinds. -/
theorem ofWire_eq_iff (value : Json) :
    (∀ g : Geometry, ofWire value = .ok g ↔ ∃ (members : Members) (n : Nat) (j : Json),
      value = .object members ∧ members.get? "kind" = some (.int n) ∧
        (Labelled.values : List GeometryKind)[n]? = some g.kind ∧
        members.get? (Labelled.label g.kind) = some j ∧ g.ReadFrom j ∧
        Single members g.kind) ∧
    ∀ (members : Members) (n : Nat) (kind : GeometryKind), value = .object members →
      members.get? "kind" = some (.int n) →
      (Labelled.values : List GeometryKind)[n]? = some kind →
        (members.get? (Labelled.label kind) = none →
          (ofWire value : Except RpcError Geometry) =
            .error (.missingParameter (Labelled.label kind))) ∧
        ∀ (j : Json) (g : Geometry), members.get? (Labelled.label kind) = some j →
          g.kind = kind → g.ReadFrom j → ¬ Single members kind →
            (ofWire value : Except RpcError Geometry) = .error (.unionConstraint "Geometry"
              ((Labelled.labels GeometryKind).filter members.contains)) := by
  refine ⟨fun g => ⟨fun h => ?_, ?_⟩, ?_⟩
  · obtain ⟨members, rfl⟩ := exists_members_of_ofWire h
    obtain ⟨hkind, ⟨j, hj, hpayload⟩, hsingle⟩ := ofWire_object_eq_ok_iff.mp h
    obtain ⟨n, hn, hplace⟩ := required_kind_eq_ok_iff.mp hkind
    exact ⟨members, n, j, rfl, hn, hplace, hj, hpayload, hsingle⟩
  · rintro ⟨members, n, j, rfl, hn, hplace, hj, hpayload, hsingle⟩
    have hkind := required_kind_eq_ok_iff.mpr ⟨n, hn, hplace⟩
    exact ofWire_object_eq_ok_iff.mpr ⟨hkind, ⟨j, hj, hpayload⟩, hsingle⟩
  · rintro members n kind rfl hn hplace
    rw [ofWire_object, bind_of_eq_ok (required_kind_eq_ok_iff.mpr ⟨n, hn, hplace⟩)]
    refine ⟨fun hnone => ?_, fun j g hj hkind hpayload hsingle => ?_⟩
    · rw [ofKind_of_none hnone]
      rfl
    · rw [bind_of_eq_ok (ofKind_eq_ok_iff.mpr ⟨hkind, j, hj, hpayload⟩),
        ensureSingleMember_of_not_single hsingle]
      rfl

/-- A point beside the radius of a circle is one member too many, and a note is none. -/
theorem ofWire_eq_iff_both : (ofWire (.object [("radius", .int 2), ("kind", .int 2),
    ("note", .null), ("point", .null)]) : Except RpcError Geometry) =
      .error (.unionConstraint "Geometry" ["point", "radius"]) := by
  have hsingle : ¬ Single [("radius", .int 2), ("kind", .int 2), ("note", .null), ("point", .null)]
      .radius := fun h => nomatch h .point (by decide)
  exact ((ofWire_eq_iff _).2 _ 2 .radius rfl rfl rfl).2 (.int 2) (.radius (.ofInt 2)) rfl rfl rfl
    hsingle

end Geometry

end Drawing

end RpcSchema
