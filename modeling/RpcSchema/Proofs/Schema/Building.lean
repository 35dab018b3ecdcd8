import RpcSchema.Proofs.Schema.Types
import RpcSchema.Proofs.Success
import RpcSchema.Schema.Build

/-!
# What building gives

The builder decides once for every name whether it is an enum: the first pass over the entries
collects the enums, and the second writes each name by that list. What later checks rely on is
that the decision is right, which needs both passes. A name is written as an enum only if some
entry declares that enum, and written as something else only if none does.

The builder also makes names, for fields in place, from the name of the definition and the positions
on the way to them. So it matters where a type is written, and what for.

## Main definitions

* `Schema.WrittenAt` — a type is one that the builder writes in some position of an owner
* `Schema.WrittenWith` — a type is one that the builder writes when it knows the given enums
* `Schema.WrittenLayer` — the same, one layer opened

## Main results

* `WrittenWith.of_occursIn` — so is every type inside it
* `entryDefinitions_ok` — what one entry declares
* `build_ok` — what a list of entries declares
-/

namespace RpcSchema.Schema

open RpcSchema.Entry (Value Parsed)

variable {enums : List String}

/-! ### Types -/

/-- A type that the builder writes for some value in a position of an owner. -/
def WrittenAt (enums : List String) (owner position : String) (type : TypeRef) : Prop :=
  ∃ value, typeRef enums owner position value = .ok type

/-- A type that the builder writes for some value in some position. -/
def WrittenWith (enums : List String) (type : TypeRef) : Prop :=
  ∃ owner field value, typeRef enums owner field value = .ok type

theorem WrittenAt.writtenWith {owner position : String} {type : TypeRef}
    (h : WrittenAt enums owner position type) : WrittenWith enums type :=
  ⟨owner, position, h⟩

theorem namedType_cases (enums : List String) (word : String) :
    (∃ s, namedType enums word = .scalar s) ∨
      (word ∈ enums ∧ namedType enums word = .enum word) ∨
      (word ∉ enums ∧ namedType enums word = .named word) := by
  unfold namedType
  split
  · exact .inl ⟨_, rfl⟩
  · by_cases h : word ∈ enums
    · exact .inr (.inl ⟨h, by simp [h]⟩)
    · exact .inr (.inr ⟨h, by simp [h]⟩)

theorem fieldsOf_ok {owner : String} {members : List (String × Value)} {fields : List Field}
    (h : fieldsOf enums owner members = .ok fields) :
    ∀ field ∈ fields, WrittenAt enums owner field.name field.type := by
  induction members generalizing fields with
  | nil =>
    cases h
    simp
  | cons member rest ih =>
    obtain ⟨type, htype, h⟩ := bind_eq_ok.mp h
    obtain ⟨others, hothers, h⟩ := bind_eq_ok.mp h
    cases h
    exact List.forall_mem_cons.mpr ⟨⟨_, htype⟩, ih hothers⟩

theorem fields_ok {owner : String} {value : Value} {fs : List Field}
    (h : fields enums owner value = .ok fs) :
    ∀ field ∈ fs, WrittenAt enums owner field.name field.type := by
  cases value with
  | string text => cases h
  | list items => cases h
  | map members => exact fieldsOf_ok h

/-- One layer of a type: its own name is classified by the enums, and the types directly inside it
are written with them. -/
def WrittenLayer (enums : List String) : TypeRef → Prop
  | .scalar _ => True
  | .enum name => name ∈ enums
  | .named name => name ∉ enums
  | .array item => WrittenWith enums item
  | .anonymous _ fields => ∀ field ∈ fields, WrittenWith enums field.type

theorem WrittenWith.layer {type : TypeRef} (h : WrittenWith enums type) :
    WrittenLayer enums type := by
  obtain ⟨owner, field, value, h⟩ := h
  match value with
  | .string word =>
    rw [typeRef, Except.ok.injEq] at h
    obtain ⟨s, hw⟩ | ⟨hmem, hw⟩ | ⟨hmem, hw⟩ := namedType_cases enums word <;> rw [← h, hw]
    · trivial
    · exact hmem
    · exact hmem
  | .list [] => cases h
  | .list (_ :: _ :: _) => cases h
  | .list [item] =>
    rw [typeRef] at h
    obtain ⟨type, htype, h⟩ := bind_eq_ok.mp h
    cases h
    exact ⟨owner, field, item, htype⟩
  | .map members =>
    rw [typeRef] at h
    obtain ⟨fields, hfields, h⟩ := bind_eq_ok.mp h
    cases h
    exact fun field hfield => (fieldsOf_ok hfields field hfield).writtenWith

theorem WrittenWith.of_occursIn {part type : TypeRef} (hp : OccursIn part type)
    (h : WrittenWith enums type) : WrittenWith enums part := by
  induction hp with
  | self => exact h
  | item _ ih => exact ih h.layer
  | field hmem _ ih => exact ih (h.layer _ hmem)

/-- A command that names no result returns nothing, as if it were written so. -/
theorem writtenAt_none {owner position : String} :
    WrittenAt enums owner position (.scalar .none) :=
  ⟨.string "none", by rw [typeRef]; rfl⟩

/-! ### Entries -/

theorem members_ok {union owner : String} {data : Value} {ms : List Field}
    (h : members enums union owner data = .ok ms) :
    ∀ member ∈ ms, WrittenAt enums owner member.name member.type := by
  obtain ⟨fs, hfs, h⟩ := bind_eq_ok.mp h
  split at h
  · cases h
  · cases h
    exact fields_ok hfs

theorem params_ok {owner : String} {data : Option Value} {ps : Params}
    (h : params enums owner data = .ok ps) :
    ∀ field ∈ ps.toFields, WrittenAt enums owner field.name field.type := by
  unfold params at h
  split at h
  · cases h
    simp [Params.toFields]
  · cases h
    simp [Params.toFields]
  · obtain ⟨fs, hfs, h⟩ := bind_eq_ok.mp h
    cases h
    exact fields_ok hfs

theorem optionType_ok {owner : String} {data : Option Value} {type : Option TypeRef}
    (h : optionType enums owner data = .ok type) : ∀ t ∈ type, WrittenAt enums owner "data" t := by
  unfold optionType at h
  split at h
  · cases h
    simp
  · obtain ⟨t, ht, h⟩ := bind_eq_ok.mp h
    cases h
    split
    · simp
    · simpa using ⟨_, ht⟩

/-- A definition whose types are written for it, those of fields under their names and others under
the keys of its entry. -/
def MadeWith (enums : List String) (d : Definition) : Prop :=
  ∀ type ∈ d.types, ∃ position,
    (position ∈ d.fields.map (·.name) ∨ position ∈ ["data", "returns"]) ∧
      WrittenAt enums (Naming.typeName d.name) position type

/-- The definitions that an entry with the given head declares: a union two, the enum of its
members first, and any other entry one. -/
inductive Declares (enums : List String) (hd : Head) : List Definition → Prop
  | single {d : Definition} : hd.kind ≠ .union → d.name = hd.name → d.kind = hd.kind →
    MadeWith enums d → Declares enums hd [d]
  | union {kind union : Definition} {members : List Field} : hd.kind = .union →
    kind.name = Naming.kindName hd.name →
    kind.body = .enum (members.map (·.name)) (some hd.name) →
    union.name = hd.name → union.body = .union members →
    MadeWith enums union → Declares enums hd [kind, union]

/-- The fields of a definition may come with types in other positions. -/
theorem madeWith_of_fields {d : Definition} {others : List TypeRef}
    (htypes : d.types = fieldTypes d.fields ++ others)
    (hfields : ∀ field ∈ d.fields,
      WrittenAt enums (Naming.typeName d.name) field.name field.type)
    (hothers : ∀ type ∈ others, ∃ position ∈ ["data", "returns"],
      WrittenAt enums (Naming.typeName d.name) position type) : MadeWith enums d := by
  rw [MadeWith, htypes, List.forall_mem_append]
  refine ⟨List.forall_mem_map.mpr fun field hfield => ?_, fun type htype => ?_⟩
  · exact ⟨field.name, .inl (List.mem_map_of_mem hfield), hfields field hfield⟩
  · obtain ⟨position, hposition, hwritten⟩ := hothers type htype
    exact ⟨position, .inr hposition, hwritten⟩

theorem bodies_ok {hd : Head} {value : Value} {bs : List (String × Body)} {line : Nat}
    (h : bodies enums hd value = .ok bs) :
    Declares enums hd (bs.map fun b => ⟨b.1, line, b.2⟩) := by
  obtain ⟨kind, name⟩ := hd
  cases kind with
  | struct =>
    obtain ⟨data, _, h⟩ := bind_eq_ok.mp h
    obtain ⟨fs, hfs, h⟩ := bind_eq_ok.mp h
    cases h
    exact .single (by simp) rfl rfl (madeWith_of_fields rfl (fields_ok hfs) nofun)
  | enum =>
    obtain ⟨data, _, h⟩ := bind_eq_ok.mp h
    obtain ⟨labels, _, h⟩ := bind_eq_ok.mp h
    cases h
    exact .single (by simp) rfl rfl (madeWith_of_fields rfl nofun nofun)
  | union =>
    obtain ⟨data, _, h⟩ := bind_eq_ok.mp h
    obtain ⟨ms, hms, h⟩ := bind_eq_ok.mp h
    cases h
    exact .union rfl rfl rfl rfl rfl (madeWith_of_fields rfl (members_ok hms) nofun)
  | handle =>
    obtain ⟨data, _, h⟩ := bind_eq_ok.mp h
    obtain ⟨type, htype, h⟩ := bind_eq_ok.mp h
    cases h
    refine .single (by simp) rfl rfl (madeWith_of_fields rfl nofun ?_)
    exact List.forall_mem_singleton.mpr ⟨"data", by decide, _, htype⟩
  | event =>
    simp only [bodies] at h
    split at h
    · obtain ⟨fs, hfs, h⟩ := bind_eq_ok.mp h
      cases h
      exact .single (by simp) rfl rfl (madeWith_of_fields rfl (fields_ok hfs) nofun)
    · cases h
      exact .single (by simp) rfl rfl (madeWith_of_fields rfl nofun nofun)
  | command =>
    obtain ⟨ps, hps, h⟩ := bind_eq_ok.mp h
    have hreturns : ∃ returns, WrittenAt enums (Naming.typeName name) "returns" returns ∧
        bs = [(name, .command ps returns)] := by
      simp only at h
      split at h
      · obtain ⟨returns, hreturns, h⟩ := bind_eq_ok.mp h
        cases h
        exact ⟨returns, ⟨_, hreturns⟩, rfl⟩
      · cases h
        exact ⟨_, writtenAt_none, rfl⟩
    obtain ⟨returns, hreturns, rfl⟩ := hreturns
    refine .single (by simp) rfl rfl (madeWith_of_fields rfl (params_ok hps) ?_)
    exact List.forall_mem_singleton.mpr ⟨"returns", by decide, hreturns⟩
  | option =>
    obtain ⟨type, htype, h⟩ := bind_eq_ok.mp h
    obtain ⟨implicit, _, h⟩ := bind_eq_ok.mp h
    cases h
    refine .single (by simp) rfl rfl (madeWith_of_fields rfl nofun fun t ht => ?_)
    refine ⟨"data", by decide, optionType_ok htype t ?_⟩
    simpa [Definition.inputTypes, Definition.result?] using ht

theorem entryDefinitions_ok {entry : Parsed} {ds : List Definition}
    (h : entryDefinitions enums entry = .ok ds) :
    ∃ hd, head entry.value = .ok hd ∧ Declares enums hd ds := by
  obtain ⟨hd, hhd, h⟩ := bind_eq_ok.mp h
  simp only at h
  split at h
  · cases h
  · obtain ⟨bs, hbs, h⟩ := bind_eq_ok.mp h
    cases h
    exact ⟨hd, hhd, bodies_ok hbs⟩

/-! ### Schemas -/

/-- Both passes read the same head of an entry. -/
theorem forall₂_declares {entries : List Parsed} {heads : List Head}
    {groups : List (List Definition)}
    (hheads : List.Forall₂ (fun e hd => atLine e.line (head e.value) = .ok hd) entries heads)
    (hgroups : List.Forall₂ (fun e ds => atLine e.line (entryDefinitions enums e) = .ok ds) entries
      groups) : List.Forall₂ (Declares enums) heads groups := by
  induction hheads generalizing groups with
  | nil =>
    cases hgroups
    exact .nil
  | cons hhead _ ih =>
    cases hgroups with
    | cons hgroup hrest =>
      obtain ⟨hd, hhd, hdeclares⟩ := entryDefinitions_ok (mapError_eq_ok.mp hgroup)
      rw [atLine, mapError_eq_ok, hhd, Except.ok.injEq] at hhead
      exact .cons (hhead ▸ hdeclares) (ih hrest)

/-- A schema is built from the heads of its entries, each of which declares its definitions by the
enums that all of them announce. -/
theorem build_ok {entries : List Parsed} {schema : Schema} (h : build entries = .ok schema) :
    ∃ heads groups, schema.definitions = groups.flatten ∧
      List.Forall₂ (Declares (enumNames heads)) heads groups := by
  obtain ⟨heads, hheads, h⟩ := bind_eq_ok.mp h
  obtain ⟨groups, hgroups, h⟩ := bind_eq_ok.mp h
  cases h
  exact ⟨heads, groups, rfl, forall₂_declares (mapM_eq_ok.mp hheads) (mapM_eq_ok.mp hgroups)⟩

/-! ### Classification -/

/-- The names of a schema are classified rightly: a name is written as an enum exactly if there is
an enum of that name, and every union has the enum of its members. -/
structure Classified (schema : Schema) : Prop where
  /-- A name written as an enum is one. -/
  enum_declared {name : String} : schema.Writes (.enum name) →
    ∃ d ∈ schema.definitions, d.kind = .enum ∧ d.name = name
  /-- A name written otherwise is none. -/
  named_ne_enum {name : String} : schema.Writes (.named name) →
    ∀ d ∈ schema.definitions, d.kind = .enum → d.name ≠ name
  /-- The enum of a union is declared with it. -/
  kind_declared : ∀ d ∈ schema.definitions, d.kind = .union →
    ∃ e ∈ schema.definitions, e.kind = .enum ∧ e.name = Naming.kindName d.name

theorem Declares.madeWith {hd : Head} {ds : List Definition} (h : Declares enums hd ds) :
    ∀ d ∈ ds, MadeWith enums d := by
  cases h with
  | single _ _ _ hmade => exact List.forall_mem_singleton.mpr hmade
  | union _ _ hkind _ _ hmade =>
    refine List.forall_mem_cons.mpr ⟨?_, List.forall_mem_singleton.mpr hmade⟩
    simp [MadeWith, Definition.types, Definition.inputTypes, Definition.result?, hkind]

/-- The enums that a head announces are those that its entry declares. -/
theorem Declares.enumName? {hd : Head} {ds : List Definition} (h : Declares enums hd ds)
    (name : String) : hd.enumName? = some name ↔ ∃ d ∈ ds, d.kind = .enum ∧ d.name = name := by
  cases h with
  | single hunion hname hkind _ =>
    cases h : hd.kind <;> simp_all [Head.enumName?]
  | union hunion hname hbody hname' hbody' _ =>
    simp [Head.enumName?, hunion, hname, Definition.kind, hbody, hbody', Body.kind]

theorem Declares.kind_declared {hd : Head} {ds : List Definition} (h : Declares enums hd ds) :
    ∀ d ∈ ds, d.kind = .union → ∃ e ∈ ds, e.kind = .enum ∧ e.name = Naming.kindName d.name := by
  cases h with
  | single hunion _ hkind _ => simp [hkind, hunion]
  | union _ hname hbody hname' hbody' _ =>
    simp [Definition.kind, hbody, hbody', Body.kind, hname, hname']

theorem mem_enumNames {heads : List Head} {groups : List (List Definition)}
    (h : List.Forall₂ (Declares enums) heads groups) {name : String} :
    name ∈ enumNames heads ↔ ∃ d ∈ groups.flatten, d.kind = .enum ∧ d.name = name := by
  rw [enumNames, List.mem_filterMap]
  constructor
  · rintro ⟨hd, hhd, hname⟩
    obtain ⟨ds, hds, hdeclares⟩ := exists_result h hhd
    obtain ⟨d, hd, hkind⟩ := (hdeclares.enumName? name).1 hname
    exact ⟨d, List.mem_flatten.mpr ⟨ds, hds, hd⟩, hkind⟩
  · rintro ⟨d, hd, hkind⟩
    obtain ⟨ds, hds, hd⟩ := List.mem_flatten.mp hd
    obtain ⟨hd', hhd, hdeclares⟩ := exists_item h hds
    exact ⟨hd', hhd, (hdeclares.enumName? name).2 ⟨d, hd, hkind⟩⟩

/-- **The builder classifies every name rightly**, wherever the enum is declared. -/
theorem build_classified {entries : List Parsed} {schema : Schema}
    (h : build entries = .ok schema) : schema.Classified := by
  obtain ⟨heads, groups, hdefs, hgroups⟩ := build_ok h
  have hwritten : ∀ {part}, schema.Writes part → WrittenWith (enumNames heads) part := by
    rintro part ⟨d, hd, type, htype, hp⟩
    rw [hdefs] at hd
    obtain ⟨ds, hds, hd⟩ := List.mem_flatten.mp hd
    obtain ⟨_, _, hdeclares⟩ := exists_item hgroups hds
    obtain ⟨_, _, hwritten⟩ := hdeclares.madeWith d hd type htype
    exact hwritten.writtenWith.of_occursIn hp
  have hmem := fun name => @mem_enumNames _ _ _ hgroups name
  rw [← hdefs] at hmem
  refine ⟨fun h => (hmem _).1 (hwritten h).layer, fun h d hd hkind hname => ?_, ?_⟩
  · exact (hwritten h).layer ((hmem _).2 ⟨d, hd, hkind, hname⟩)
  · intro d hd hkind
    rw [hdefs] at hd ⊢
    obtain ⟨ds, hds, hd⟩ := List.mem_flatten.mp hd
    obtain ⟨_, _, hdeclares⟩ := exists_item hgroups hds
    obtain ⟨e, he, henum⟩ := hdeclares.kind_declared d hd hkind
    exact ⟨e, List.mem_flatten.mpr ⟨ds, hds, he⟩, henum⟩

end RpcSchema.Schema
