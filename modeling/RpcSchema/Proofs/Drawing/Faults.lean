import RpcSchema.Proofs.Drawing.Declared
import RpcSchema.Proofs.Rpc.Causes

/-!
# Where a value does not fit its type

A value that cannot be read has a place inside it that does not fit the type it stands for: a scalar
of another kind, a number that is the place of no value of an enumeration, something that is no list
or no object where one is wanted, or a handle with another mark. The place is reached by a way of
keys and items, and whatever is read before it can be read. The error of reading blames the last key
on that way, whatever lies around it: lists have no keys of their own, so a fault in an item is one
of the key that has the list.

Such a fault is the only reason for an error that blames a parameter, and there is no other error
where there is one.

## Main definitions

* `WireType.Misfit` — values that do not fit a type, whatever they hold
* `WireType.Fault` — a way into a value to the first one that does not fit
* `WireType.Explains` — what an error blames where there is a fault

## Main results

* `WireType.read_record` — records are read member by member
* `WireType.accountable` — an error that blames a parameter has a fault
* `WireType.read_of_fault` — the error of a fault blames the last key on the way to it
-/

namespace RpcSchema.Drawing

open Json (Members innermostKey)
open RpcSchema.Wire

namespace WireType

/-! ### Records -/

/-- The types whose objects are read member by member. -/
inductive Record : WireType → Prop
  | point : Record point
  | origin : Record origin
  | shape : Record shape
  | flags : Record flags
  | shapeChanged : Record shapeChanged

/-- The members that objects of a type may leave out. -/
def spared : WireType → List String
  | point => ["label"]
  | shape => ["origin"]
  | flags => ["a", "b", "c", "d"]
  | _ => []

/-- Whether a declared member of an object can be read, and the error if it cannot. -/
def check (type : WireType) (members : Members) (m : String × WireType) : Except RpcError Unit :=
  if m.1 ∈ type.spared then (optional m.2.Value members m.1).map fun _ => ()
  else (required m.2.Value members m.1).map fun _ => ()

/-- A step comes first, and what comes next may do anything with its result. -/
theorem map_bind_check {ε α β : Type} {x : Except ε α} {f : α → Except ε β}
    {y : Except ε (List Unit)} (h : ∀ a, ((f a).map fun _ => ()) = y.map fun _ => ()) :
    ((x >>= f).map fun _ => ()) = (do
      let first ← x.map fun _ => ()
      let rest ← y
      pure (first :: rest)).map fun _ => () := by
  cases x with
  | error e => rfl
  | ok a => exact (h a).trans (by cases y <;> rfl)

/-- Reading an object reads its declared members in their order. -/
theorem read_record {type : WireType} (h : type.Record) (members : Members) :
    ((type.read (.object members)).map fun _ => ()) =
      (type.declared.mapM (type.check members)).map fun _ => () := by
  cases h <;> simp only [declared, List.mapM_cons, List.mapM_nil]
  case origin | shapeChanged => exact map_bind_check fun _ => map_bind_check fun _ => rfl
  case point =>
    exact map_bind_check fun _ => map_bind_check fun _ => map_bind_check fun _ => rfl
  case shape | flags =>
    exact map_bind_check fun _ => map_bind_check fun _ => map_bind_check fun _ =>
      map_bind_check fun _ => rfl

/-! ### Faults -/

/-- The name of an enumeration, and how many values it has. -/
def choices : WireType → Option (String × Nat)
  | color => some (Labelled.typeName Color, (Labelled.values : List Color).length)
  | geometryKind =>
    some (Labelled.typeName GeometryKind, (Labelled.values : List GeometryKind).length)
  | _ => Option.none

/-- A value that does not fit a type, whatever it holds, and what was expected of it. -/
inductive Misfit : WireType → Json → Cause → Prop
  | int {v : Json} (h : v.word? = Option.none) : Misfit int v (.type "int")
  | bool {v : Json} (h : v.bool? = Option.none) : Misfit bool v (.type "bool")
  | number {v : Json} (h : v.number? = Option.none) : Misfit number v (.type "number")
  | str {v : Json} (h : v.string? = Option.none) : Misfit str v (.type "string")
  /-- the place of a value of an enumeration is a number -/
  | place {type : WireType} {v : Json} (htype : type.choices ≠ Option.none)
    (h : v.word? = Option.none) : Misfit type v (.type "int")
  | choice {type : WireType} {v : Json} {name : String} {count : Nat} {n : Int}
    (htype : type.choices = some (name, count)) (hword : v.word? = some n)
    (h : n < 0 ∨ count ≤ n) : Misfit type v (.value ("a valid " ++ name))
  | list {item : WireType} {v : Json} (h : v.array? = Option.none) :
    Misfit (list item) v (.type "list")
  | object {type : WireType} {v : Json} (htype : type.declared ≠ [])
    (h : v.object? = Option.none) : Misfit type v (.type "object")

/-- A way into a value of a type to a value that does not fit, where all that is read before it can
be read. Of the members of a union only that of the kind is read, and of those of a handle the mark
is compared as a whole. -/
inductive Fault : WireType → Json → List Json.Step → Cause → Prop
  | here {type : WireType} {v : Json} {cause : Cause} (h : Misfit type v cause) :
    Fault type v [] cause
  | item {item : WireType} {before after : List Json} {v : Json} {way : List Json.Step}
    {cause : Cause} (hbefore : ∀ w ∈ before, ∃ value, item.read w = .ok value)
    (h : Fault item v way cause) :
    Fault (list item) (.array (before ++ v :: after)) (.item before.length :: way) cause
  | member {type inner : WireType} {before after : List (String × WireType)} {members : Members}
    {key : String} {v : Json} {way : List Json.Step} {cause : Cause} (htype : type.Record)
    (hdeclared : type.declared = before ++ (key, inner) :: after)
    (hbefore : ∀ m ∈ before, type.check members m = .ok ()) (hget : members.get? key = some v)
    (h : Fault inner v way cause) : Fault type (.object members) (.key key :: way) cause
  | kind {members : Members} {v : Json} {way : List Json.Step} {cause : Cause}
    (hget : members.get? "kind" = some v) (h : Fault geometryKind v way cause) :
    Fault geometry (.object members) (.key "kind" :: way) cause
  | active {members : Members} {kind : GeometryKind} {inner : WireType} {v : Json}
    {way : List Json.Step} {cause : Cause}
    (hkind : required GeometryKind members "kind" = .ok kind)
    (hinner : (Labelled.label kind, inner) ∈ geometry.declared)
    (hget : members.get? (Labelled.label kind) = some v) (h : Fault inner v way cause) :
    Fault geometry (.object members) (.key (Labelled.label kind) :: way) cause
  | mark {members : Members} {v : Json} (hget : members.get? handleMarker = some v)
    (hmark : v.string? ≠ some "FileHandle") :
    Fault fileHandle (.object members) [.key handleMarker] (.value "a FileHandle handle")
  | data {members : Members} {mark v : Json} {way : List Json.Step} {cause : Cause}
    (hmark : members.get? handleMarker = some mark) (hname : mark.string? = some "FileHandle")
    (hget : members.get? "data" = some v) (h : Fault int v way cause) :
    Fault fileHandle (.object members) (.key "data" :: way) cause

theorem key_ne_unknown {type inner : WireType} {key : String}
    (h : (key, inner) ∈ type.declared) : key ≠ RpcError.unknownParameter := by
  have hkey : key ∈ type.declared.map (·.1) := List.mem_map_of_mem h
  rintro rfl
  revert hkey
  cases type with
  | list item => exact List.not_mem_nil
  | _ => decide

/-- No key on the way to a fault is taken for an unknown one. -/
theorem Fault.innermostKey_ne {type : WireType} {v : Json} {way : List Json.Step} {cause : Cause}
    (h : Fault type v way cause) : ∀ key ∈ innermostKey way, key ≠ RpcError.unknownParameter := by
  have hkey {key : String} (hne : key ≠ RpcError.unknownParameter) {way : List Json.Step}
      (ih : ∀ inner ∈ innermostKey way, inner ≠ RpcError.unknownParameter) :
      ∀ inner ∈ innermostKey (.key key :: way), inner ≠ RpcError.unknownParameter := by
    rintro _ ⟨⟩
    cases hway : innermostKey way with
    | none => exact hne
    | some inner => exact ih inner hway
  induction h with
  | here _ => exact nofun
  | item _ _ ih => exact ih
  | member _ hdeclared _ _ _ ih =>
    exact hkey (key_ne_unknown (hdeclared ▸ List.mem_append_right _ List.mem_cons_self)) ih
  | kind _ _ ih => exact hkey (by decide) ih
  | active _ hinner _ _ ih => exact hkey (key_ne_unknown hinner) ih
  | mark _ _ => exact hkey (by decide) nofun
  | data _ _ _ _ ih => exact hkey (by decide) ih

/-- An error in a value of a type blames the last key on the way to a fault, and no parameter where
there is no key on it. -/
def Explains (type : WireType) (v : Json) (name : String) (cause : Cause) : Prop :=
  ∃ way, Fault type v way cause ∧ name = (innermostKey way).getD RpcError.unknownParameter

theorem explains_misfit {type : WireType} {v : Json} {cause : Cause} (h : Misfit type v cause) :
    type.Explains v RpcError.unknownParameter cause :=
  ⟨[], .here h, rfl⟩

/-- A fault in the value of a key is one in the object, and the key is the last one on the way if
there is none in the value. -/
theorem explains_key {type inner : WireType} {members : Members} {key : String} {v : Json}
    (h : ∀ way cause, Fault inner v way cause →
      Fault type (.object members) (.key key :: way) cause) {name : String} {cause : Cause}
    (hinner : inner.Explains v name cause) :
    type.Explains (.object members) (nameAt key name) cause := by
  obtain ⟨way, hfault, rfl⟩ := hinner
  refine ⟨.key key :: way, h way cause hfault, ?_⟩
  rw [nameAt_innermostKey key hfault.innermostKey_ne]
  rfl

/-! ### Errors have faults -/

/-- A type all of whose errors are explained. -/
def Accountable (type : WireType) : Prop := ∀ v, Blames (type.Explains v) (type.read v)

theorem blames_expect {type : WireType} {v : Json} {α : Type} {expected : String}
    {value : Option α} (h : value = Option.none → Misfit type v (.type expected)) :
    Blames (type.Explains v) (expect expected value) := by
  cases value with
  | none => exact blames_error (.type expected) (explains_misfit (h rfl))
  | some a => exact blames_ok a

theorem accountable_int : int.Accountable := fun _ => blames_map (blames_expect .int) _

theorem accountable_bool : bool.Accountable := fun _ => blames_expect .bool

theorem accountable_number : number.Accountable := fun _ => blames_expect .number

theorem accountable_str : str.Accountable := fun _ => blames_expect .str

theorem ofIndex?_eq_none_iff {α : Type} [Labelled α] {n : Int} :
    Labelled.ofIndex? (α := α) n = Option.none ↔
      n < 0 ∨ (Labelled.values : List α).length ≤ n := by
  rw [Labelled.ofIndex?]
  by_cases hn : n < 0
  · simp [hn]
  · rw [if_neg hn, List.getElem?_eq_none_iff]
    omega

/-- The word of a value is the number that it is. -/
theorem word_of_ofWire {v : Json} {n : Int64} (h : Wire.ofWire v = .ok n) :
    v.word? = some n.toInt := by
  rw [ofWire_word_eq_ok_iff.mp h, Json.word?, if_pos (isWord_toInt n)]

/-- A value of an enumeration is the place of one. -/
theorem blames_labelled {type : WireType} {α : Type} [Labelled α] [BEq α]
    (htype : type.choices =
      some (Labelled.typeName α, (Labelled.values : List α).length)) (v : Json) :
    Blames (type.Explains v) (Labelled.wire.ofWire v : Except RpcError α) := by
  refine blames_bind (blames_map (blames_expect (.place (by simp [htype]))) _) fun n hn => ?_
  rw [Labelled.ofIndex]
  cases hplace : Labelled.ofIndex? (α := α) n.toInt with
  | some a => exact blames_ok a
  | none =>
    exact blames_error (.value (Labelled.expected α))
      (explains_misfit (.choice htype (word_of_ofWire hn) (ofIndex?_eq_none_iff.mp hplace)))

theorem accountable_color : color.Accountable := blames_labelled (α := Color) rfl

theorem accountable_kind : geometryKind.Accountable :=
  blames_labelled (α := GeometryKind) rfl

/-- An item has no key of its own. -/
theorem Accountable.list {item : WireType} (h : item.Accountable) : (list item).Accountable := by
  intro v
  refine blames_bind (blames_expect .list) fun items hitems => ?_
  obtain rfl : v = .array items := by
    cases v <;> cases hitems
    rfl
  refine blames_mapM fun before v after hsplit hbefore => (h v).imp ?_
  rintro name cause ⟨way, hfault, rfl⟩
  subst hsplit
  exact ⟨.item before.length :: way, .item hbefore hfault, rfl⟩

theorem read_of_not_object {type : WireType} (htype : type.declared ≠ []) {v : Json}
    (hv : v.object? = Option.none) : type.read v = .error (.wrongType "object") := by
  cases type with
  | int | bool | number | str | none | color | geometryKind | list _ => exact absurd rfl htype
  | _ => cases v <;> cases hv <;> rfl

theorem accountable_of_object {type : WireType} (htype : type.declared ≠ [])
    (h : ∀ members : Members,
      Blames (type.Explains (.object members)) (type.read (.object members))) :
    type.Accountable := by
  intro v
  cases hv : v.object? with
  | none =>
    rw [read_of_not_object htype hv]
    exact blames_error (.type "object") (explains_misfit (.object htype hv))
  | some members =>
    obtain rfl : v = .object members := by
      cases v <;> cases hv
      rfl
    exact h members

section

variable {type inner : WireType} {members : Members} {key : String} (hinner : inner.Accountable)
  (h : ∀ v way cause, members.get? key = some v → Fault inner v way cause →
    Fault type (.object members) (.key key :: way) cause)

include hinner h

theorem blames_member :
    Blames (type.Explains (.object members)) (required inner.Value members key) :=
  blames_required fun v hget => (hinner v).imp fun _ _ =>
    explains_key fun way cause => h v way cause hget

theorem blames_optionalMember :
    Blames (type.Explains (.object members)) (optional inner.Value members key) :=
  blames_optional fun v hget => (hinner v).imp fun _ _ =>
    explains_key fun way cause => h v way cause hget

end

/-- The members of a record are to blame, each after those before it. -/
theorem accountable_record {type : WireType} (htype : type.Record)
    (h : ∀ m ∈ type.declared, m.2.Accountable) : type.Accountable := by
  have hdeclared : type.declared ≠ [] := by cases htype <;> decide
  refine accountable_of_object hdeclared fun members => blames_of_map (f := fun _ => ()) ?_
  rw [read_record htype]
  refine blames_map (blames_mapM fun before m after hsplit hbefore => ?_) _
  have hinner : m.2.Accountable :=
    h m (hsplit ▸ List.mem_append_right before List.mem_cons_self)
  have hfault (v : Json) (way : List Json.Step) (cause : Cause)
      (hget : members.get? m.1 = some v) (hfault : Fault m.2 v way cause) :
      Fault type (.object members) (.key m.1 :: way) cause :=
    .member htype hsplit (fun w hw => (hbefore w hw).choose_spec) hget hfault
  rw [check]
  split
  · exact blames_map (blames_optionalMember hinner hfault) _
  · exact blames_map (blames_member hinner hfault) _

theorem accountable_point : point.Accountable := by
  refine accountable_record .point ?_
  simp only [declared, List.forall_mem_cons]
  exact ⟨accountable_int, accountable_int, accountable_str, List.forall_mem_nil _⟩

theorem accountable_origin : origin.Accountable := by
  refine accountable_record .origin ?_
  simp only [declared, List.forall_mem_cons]
  exact ⟨accountable_int, accountable_int, List.forall_mem_nil _⟩

theorem accountable_shape : shape.Accountable := by
  refine accountable_record .shape ?_
  simp only [declared, List.forall_mem_cons]
  exact ⟨accountable_str, accountable_point.list, accountable_color, accountable_origin,
    List.forall_mem_nil _⟩

theorem accountable_flags : flags.Accountable := by
  refine accountable_record .flags ?_
  simp only [declared, List.forall_mem_cons]
  exact ⟨accountable_bool, accountable_int, accountable_str, accountable_number,
    List.forall_mem_nil _⟩

theorem accountable_shapeChanged : shapeChanged.Accountable := by
  refine accountable_record .shapeChanged ?_
  simp only [declared, List.forall_mem_cons]
  exact ⟨accountable_str, accountable_color, List.forall_mem_nil _⟩

/-- A member too many blames no parameter, so what is left are the kind and the member of it. -/
theorem accountable_geometry : geometry.Accountable := by
  refine accountable_of_object (by decide) fun members => ?_
  show Blames _ (ofWire (.object members) : Except RpcError Geometry)
  rw [Geometry.ofWire_object]
  refine blames_bind (blames_member accountable_kind fun _ _ _ => .kind) fun kind hkind => ?_
  refine blames_bind ?_ fun g _ => blames_bind ?_ fun _ _ => blames_ok g
  · cases kind with
    | point =>
      refine blames_map (blames_member accountable_point fun _ _ _ => ?_) _
      exact .active hkind (by simp [declared, Labelled.label])
    | shape =>
      refine blames_map (blames_member accountable_shape fun _ _ _ => ?_) _
      exact .active hkind (by simp [declared, Labelled.label])
    | radius =>
      refine blames_map (blames_member accountable_number fun _ _ _ => ?_) _
      exact .active hkind (by simp [declared, Labelled.label])
  · rw [ensureSingleMember]
    split
    · exact blames_other (by simp [RpcError.className, RpcError.parameterClasses])
    · exact blames_ok ()

theorem accountable_fileHandle : fileHandle.Accountable := by
  refine accountable_of_object (by decide) fun members => ?_
  show Blames _ (ofWire (.object members) : Except RpcError FileHandle)
  rw [FileHandle.ofWire_object]
  cases hmark : members.get? handleMarker with
  | none => exact blames_missing _
  | some mark =>
    dsimp only [Option.map_some]
    split
    · rename_i hname
      exact blames_map (blames_member accountable_int fun _ _ _ => .data hmark hname) _
    · rename_i hne
      exact blames_error (.value "a FileHandle handle") ⟨_, .mark hmark hne, rfl⟩

/-- Whatever the type and whatever the value, an error blames the last key on the way to a fault. -/
theorem accountable (type : WireType) : type.Accountable := by
  induction type with
  | int => exact accountable_int
  | bool => exact accountable_bool
  | number => exact accountable_number
  | str => exact accountable_str
  | none => exact fun _ => blames_ok ()
  | color => exact accountable_color
  | point => exact accountable_point
  | origin => exact accountable_origin
  | shape => exact accountable_shape
  | flags => exact accountable_flags
  | geometryKind => exact accountable_kind
  | geometry => exact accountable_geometry
  | fileHandle => exact accountable_fileHandle
  | shapeChanged => exact accountable_shapeChanged
  | list item ih => exact ih.list

/-! ### Faults have errors -/

section

variable {α : Type} [Labelled α] [BEq α] {v : Json}

theorem ofWire_labelled_of_none (h : v.word? = Option.none) :
    (Labelled.wire.ofWire v : Except RpcError α) = .error (.wrongType "int") := by
  show ((expect "int" v.word?).map Int64.ofInt >>= fun m => Labelled.ofIndex m.toInt) = _
  rw [h]
  rfl

theorem ofWire_labelled_of_some {n : Int} (h : v.word? = some n)
    (hn : n < 0 ∨ (Labelled.values : List α).length ≤ n) :
    (Labelled.wire.ofWire v : Except RpcError α) = .error (.wrongValue (Labelled.expected α)) := by
  have hword : Json.isWord n := by
    cases v with
    | int k =>
      rw [Json.word?] at h
      split at h
      · cases h
        assumption
      · cases h
    | _ => cases h
  show ((expect "int" v.word?).map Int64.ofInt >>= fun m => Labelled.ofIndex m.toInt) = _
  rw [h]
  show Labelled.ofIndex (Int64.ofInt n).toInt = _
  rw [toInt_ofInt_of_isWord hword, Labelled.ofIndex, ofIndex?_eq_none_iff.mpr hn]

end

theorem read_of_misfit {type : WireType} {v : Json} {cause : Cause} (h : Misfit type v cause) :
    type.read v = .error (cause.error RpcError.unknownParameter) := by
  cases h with
  | int h =>
    show (expect "int" v.word?).map Int64.ofInt = _
    rw [h]
    rfl
  | bool h => exact congrArg (expect "bool") h
  | number h => exact congrArg (expect "number") h
  | str h => exact congrArg (expect "string") h
  | place htype h =>
    cases type with
    | color => exact ofWire_labelled_of_none (α := Color) h
    | geometryKind => exact ofWire_labelled_of_none (α := GeometryKind) h
    | _ => exact absurd rfl htype
  | choice htype hword h =>
    cases type with
    | color =>
      cases htype
      exact ofWire_labelled_of_some (α := Color) hword h
    | geometryKind =>
      cases htype
      exact ofWire_labelled_of_some (α := GeometryKind) hword h
    | _ => cases htype
  | list h =>
    show (expect "list" v.array? >>= _) = _
    rw [h]
    rfl
  | object htype h => exact read_of_not_object htype h

section

variable {inner : WireType} {members : Members} {key : String} {v : Json} {name : String}
  {cause : Cause} (hget : members.get? key = some v)
  (h : inner.read v = .error (cause.error name))

include hget h

/-- The error of a value, seen from its key. -/
theorem required_of_error :
    required inner.Value members key = .error (cause.error (nameAt key name)) := by
  rw [required, hget, ← inField_error]
  exact congrArg (RpcError.atKey key) h

theorem optional_of_error :
    Wire.optional inner.Value members key = .error (cause.error (nameAt key name)) := by
  rw [Wire.optional, hget, ← inField_error]
  exact congrArg (fun result => (RpcError.atKey key result).map some) h

theorem check_of_error (type : WireType) :
    type.check members (key, inner) = .error (cause.error (nameAt key name)) := by
  rw [check]
  split
  · rw [optional_of_error hget h]
    rfl
  · rw [required_of_error hget h]
    rfl

end

theorem ofKind_of_error {members : Members} {kind : GeometryKind} {inner : WireType} {v : Json}
    {name : String} {cause : Cause}
    (hinner : (Labelled.label kind, inner) ∈ geometry.declared)
    (hget : members.get? (Labelled.label kind) = some v)
    (h : inner.read v = .error (cause.error name)) :
    Geometry.ofKind members kind = .error (cause.error (nameAt (Labelled.label kind) name)) := by
  have hrequired := required_of_error hget h
  cases kind with
  | point =>
    obtain rfl : inner = point := by simpa [declared, Labelled.label] using hinner
    exact congrArg (Geometry.point <$> ·) hrequired
  | shape =>
    obtain rfl : inner = shape := by simpa [declared, Labelled.label] using hinner
    exact congrArg (Geometry.shape <$> ·) hrequired
  | radius =>
    obtain rfl : inner = number := by simpa [declared, Labelled.label] using hinner
    exact congrArg (Geometry.radius <$> ·) hrequired

/-- Where there is a fault, its error is the one that is given. -/
theorem read_of_fault {type : WireType} {v : Json} {way : List Json.Step} {cause : Cause}
    (h : Fault type v way cause) :
    type.read v = .error (cause.error ((innermostKey way).getD RpcError.unknownParameter)) := by
  have hname {key : String} {inner : WireType} {v : Json} {way : List Json.Step} {cause : Cause}
      (h : Fault inner v way cause) :
      nameAt key ((innermostKey way).getD RpcError.unknownParameter) =
        (innermostKey (.key key :: way)).getD RpcError.unknownParameter :=
    nameAt_innermostKey key h.innermostKey_ne
  induction h with
  | here h => exact read_of_misfit h
  | item hbefore _ ih => exact mapM_eq_error hbefore ih _
  | @member type inner before after members key v way cause htype hdeclared hbefore hget h ih =>
    have hmembers := mapM_eq_error (fun m hm => ⟨(), hbefore m hm⟩)
      (check_of_error hget ih type) after
    rw [← hdeclared] at hmembers
    have hread := read_record htype members
    rw [hmembers, hname h] at hread
    exact map_eq_error.mp hread
  | @kind members v way cause hget h ih =>
    show (ofWire (.object members) : Except RpcError Geometry) = _
    rw [Geometry.ofWire_object, ← hname h, show required GeometryKind members "kind" = _ from
      required_of_error hget ih]
    rfl
  | @active members kind inner v way cause hkind hinner hget h ih =>
    show (ofWire (.object members) : Except RpcError Geometry) = _
    rw [Geometry.ofWire_object, bind_of_eq_ok hkind, ofKind_of_error hinner hget ih, hname h]
    rfl
  | @mark members v hget hmark =>
    show (ofWire (.object members) : Except RpcError FileHandle) = _
    rw [FileHandle.ofWire_object, hget]
    exact if_neg hmark
  | @data members mark v way cause hmark htext hget h ih =>
    show (ofWire (.object members) : Except RpcError FileHandle) = _
    rw [FileHandle.ofWire_object, hmark, ← hname h]
    refine (if_pos htext).trans ?_
    rw [show required Int64 members "data" = _ from required_of_error hget ih]
    rfl

/-- A point in a list is blamed by its own key, and by none if it is no object. -/
example :
    (list point).read (.array [.object [("x", .int 1), ("y", .null)], .null]) =
        .error (.invalidType "y" "int") ∧
      (list point).read (.array [.null]) = .error (.wrongType "object") :=
  ⟨rfl, rfl⟩

end WireType

end RpcSchema.Drawing
