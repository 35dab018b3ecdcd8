import Mathlib.Data.List.Pairwise
import RpcSchema.Proofs.Schema.Types
import RpcSchema.Proofs.Success
import RpcSchema.Schema.Verify

/-!
# What verification gives

Each check of the verifier is read here as the rule that it decides, one lemma for one function, so
that nothing else has to open the checks. The rules on types hold at any depth, because the check
goes wherever a type can stand inside another.

## Main definitions

* `Schema.Apart` — two definitions that may stand in one schema
* `Schema.Checked` — a type that may stand in a position
* `Schema.TypeChecks` — a type that the check accepts in some position

## Main results

* `verify_eq_ok` — the four groups of rules
* `checkNames_eq_ok`, `lookup?_eq_some_iff` — names tell definitions apart
* `checkType_ok`, `checkFields_ok`, `checkDefinition_ok` — the rules on types
-/

namespace RpcSchema.Schema

open RpcSchema.Naming

variable {schema : Schema}

theorem checkNone_eq_ok {fault? : Option VerifyFault} :
    checkNone fault? = .ok () ↔ fault? = none := by
  cases fault? <;> simp [checkNone]

theorem verify_eq_ok :
    schema.verify = .ok () ↔ checkNames [] schema.definitions = .ok () ∧
      checkGeneratedNames schema = .ok () ∧
      schema.definitions.forM (checkDefinition schema) = .ok () ∧ schema.recursive? = none := by
  rw [verify, check_bind_eq_ok, check_bind_eq_ok, check_bind_eq_ok, checkNone_eq_ok,
    Option.map_eq_none_iff]

theorem names_ok (h : schema.verify = .ok ()) : checkNames [] schema.definitions = .ok () :=
  (verify_eq_ok.mp h).1

theorem generatedNames_ok (h : schema.verify = .ok ()) : checkGeneratedNames schema = .ok () :=
  (verify_eq_ok.mp h).2.1

theorem definition_ok (h : schema.verify = .ok ()) {d : Definition}
    (hd : d ∈ schema.definitions) : checkDefinition schema d = .ok () :=
  forM_eq_ok.mp (verify_eq_ok.mp h).2.2.1 d hd

/-! ### Names -/

/-- Two definitions that differ in their namespaces or in their names. -/
def Apart (a b : Definition) : Prop := ¬(space a.kind = space b.kind ∧ a.name = b.name)

instance : Std.Symm Apart := ⟨fun _ _ h ⟨hspace, hname⟩ => h ⟨hspace.symm, hname.symm⟩⟩

/-- A name that is right by itself: well spelled and, for a type, not reserved. -/
structure WellNamed (d : Definition) : Prop where
  isDefinitionName : isDefinitionName d.name
  notMem_reserved : d.isType → d.name ∉ reservedNames ∧ typeName d.name ∉ reservedNames

theorem nameFault?_eq_none {before : List Definition} {d : Definition} :
    nameFault? before d = none ↔ WellNamed d ∧ ∀ b ∈ before, Apart b d := by
  constructor
  · intro h
    unfold nameFault? at h
    split at h
    · cases h
    split at h
    · cases h
    split at h
    · cases h
    rename_i hname hbefore hreserved
    refine ⟨⟨by simpa using hname, fun htype => ?_⟩, fun b hb ⟨hspace, heq⟩ => ?_⟩
    · simpa [htype] using hreserved
    · exact hbefore (List.any_eq_true.mpr ⟨b, hb, by simp [hspace, heq]⟩)
  · rintro ⟨⟨hname, hreserved⟩, hapart⟩
    have hbefore : ¬before.any fun b => space b.kind == space d.kind && b.name == d.name := by
      intro hany
      obtain ⟨b, hb, hsame⟩ := List.any_eq_true.mp hany
      exact hapart b hb (by simpa using hsame)
    have hfree : ¬(d.isType && (reservedNames.contains d.name ||
        reservedNames.contains (typeName d.name))) := by
      simpa using hreserved
    rw [nameFault?, if_neg (by simpa using hname), if_neg hbefore, if_neg hfree]

/-- The rules on names: each is right by itself, and no two are alike. -/
theorem checkNames_eq_ok {before ds : List Definition} : checkNames before ds = .ok () ↔
    (∀ d ∈ ds, WellNamed d) ∧ (∀ b ∈ before, ∀ d ∈ ds, Apart b d) ∧ ds.Pairwise Apart := by
  induction ds generalizing before with
  | nil => simp [checkNames]
  | cons d rest ih =>
    rw [checkNames, check_bind_eq_ok, checkNone_eq_ok, nameFault?_eq_none, ih,
      List.forall_mem_append, List.forall_mem_singleton, List.pairwise_cons, List.forall_mem_cons]
    constructor
    · rintro ⟨⟨hd, hbefore⟩, hrest, ⟨hapart, hnext⟩, hpairwise⟩
      exact ⟨⟨hd, hrest⟩, fun b hb => List.forall_mem_cons.mpr ⟨hbefore b hb, hapart b hb⟩, hnext,
        hpairwise⟩
    · rintro ⟨⟨hd, hrest⟩, hapart, hnext, hpairwise⟩
      exact ⟨⟨hd, fun b hb => hapart b hb d List.mem_cons_self⟩, hrest,
        ⟨fun b hb e he => hapart b hb e (List.mem_cons_of_mem _ he), hnext⟩, hpairwise⟩

theorem checkNames_ok {before ds : List Definition} (h : checkNames before ds = .ok ()) :
    (∀ d ∈ ds, isDefinitionName d.name ∧ (d.isType → typeName d.name ∉ reservedNames)) ∧
      (∀ b ∈ before, ∀ d ∈ ds, Apart b d) ∧ ds.Pairwise Apart := by
  obtain ⟨hnames, hapart⟩ := checkNames_eq_ok.mp h
  exact ⟨fun d hd => ⟨(hnames d hd).1, fun htype => ((hnames d hd).2 htype).2⟩, hapart⟩

theorem space_of_isType {d : Definition} (h : d.isType) : space d.kind = "type" := if_pos h

theorem lookup?_some {name : String} {d : Definition} (h : schema.lookup? name = some d) :
    d ∈ schema.definitions ∧ d.isType ∧ d.name = name := by
  have hd := List.find?_some h
  simp only [Bool.and_eq_true, beq_iff_eq] at hd
  exact ⟨List.mem_of_find?_eq_some h, hd⟩

theorem eq_of_apart (h : schema.definitions.Pairwise Apart) {a b : Definition}
    (ha : a ∈ schema.definitions) (hb : b ∈ schema.definitions) (hat : a.isType) (hbt : b.isType)
    (hname : a.name = b.name) : a = b := by
  by_contra hne
  exact h.forall ha hb hne ⟨(space_of_isType hat).trans (space_of_isType hbt).symm, hname⟩

/-- Where names are distinct, a lookup finds the type of a name wherever it stands. -/
theorem lookup?_eq_some_iff (h : schema.definitions.Pairwise Apart) {name : String}
    {d : Definition} :
    schema.lookup? name = some d ↔ d ∈ schema.definitions ∧ d.isType ∧ d.name = name := by
  refine ⟨lookup?_some, ?_⟩
  rintro ⟨hd, ht, rfl⟩
  cases hlookup : schema.lookup? d.name with
  | none => simpa [ht] using List.find?_eq_none.mp hlookup d hd
  | some e =>
    obtain ⟨he, het, hname⟩ := lookup?_some hlookup
    rw [eq_of_apart h he hd het ht hname]

theorem apart_of_verify (h : schema.verify = .ok ()) : schema.definitions.Pairwise Apart :=
  (checkNames_ok (names_ok h)).2.2

/-- The name of a type tells it apart from all others. -/
theorem eq_of_name_eq (hv : schema.verify = .ok ()) {a b : Definition}
    (ha : a ∈ schema.definitions) (hb : b ∈ schema.definitions) (hat : a.isType) (hbt : b.isType)
    (hname : a.name = b.name) : a = b :=
  eq_of_apart (apart_of_verify hv) ha hb hat hbt hname

/-- A type is what its name stands for. -/
theorem lookup?_of_mem (hv : schema.verify = .ok ()) {d : Definition}
    (hd : d ∈ schema.definitions) (ht : d.isType) : schema.lookup? d.name = some d :=
  (lookup?_eq_some_iff (apart_of_verify hv)).mpr ⟨hd, ht, rfl⟩

/-! ### Types in positions -/

/-- A type that may stand in a position, apart from what stands inside it. -/
def Checked (schema : Schema) : TypeRef → Prop
  | .scalar s => s ≠ .none
  | .enum _ => True
  | .named name => ∃ d, schema.lookup? name = some d ∧ d.kind ≠ .event
  | .array _ => True
  | .anonymous _ fields => ∀ field ∈ fields, isFieldName field.name

/-- A type that the check accepts in some position. -/
def TypeChecks (schema : Schema) (type : TypeRef) : Prop :=
  ∃ field owner, checkType schema field owner type = .ok ()

theorem checkFieldName_ok {before : List String} {field owner : String}
    (h : checkFieldName before field owner = .ok ()) :
    isFieldName field ∧ memberName field ∉ before := by
  unfold checkFieldName at h
  split at h
  · cases h
  split at h
  · cases h
  rename_i hname hbefore
  exact ⟨by simpa using hname, by simpa using hbefore⟩

theorem checkFields_ok {owner : String} {before : List String} {fields : List Field}
    (h : checkFields schema owner before fields = .ok ()) :
    (∀ field ∈ fields, isFieldName field.name) ∧
      ∀ type ∈ fieldTypes fields, TypeChecks schema type := by
  induction fields generalizing before with
  | nil => exact ⟨nofun, nofun⟩
  | cons field rest ih =>
    rw [checkFields, check_bind_eq_ok, check_bind_eq_ok] at h
    obtain ⟨hname, htype, h⟩ := h
    obtain ⟨hnames, htypes⟩ := ih h
    exact ⟨List.forall_mem_cons.mpr ⟨(checkFieldName_ok hname).1, hnames⟩,
      List.forall_mem_cons.mpr ⟨⟨_, _, htype⟩, htypes⟩⟩

theorem checkNamed_ok {field owner name : String}
    (h : checkNamed schema field owner name = .ok ()) :
    ∃ d, schema.lookup? name = some d ∧ d.kind ≠ .event := by
  unfold checkNamed at h
  split at h
  · cases h
  split at h
  · cases h
  exact ⟨_, ‹_›, ‹_›⟩

/-- The check reaches every type inside the one that it accepts. -/
theorem TypeChecks.of_occursIn {part type : TypeRef} (hp : OccursIn part type)
    (h : TypeChecks schema type) : TypeChecks schema part := by
  induction hp with
  | self => exact h
  | item _ ih =>
    obtain ⟨field, owner, h⟩ := h
    rw [checkType] at h
    exact ih ⟨field, owner, h⟩
  | field hmem _ ih =>
    obtain ⟨field, owner, h⟩ := h
    rw [checkType] at h
    exact ih ((checkFields_ok h).2 _ (List.mem_map_of_mem hmem))

theorem TypeChecks.checked {type : TypeRef} (h : TypeChecks schema type) : Checked schema type := by
  obtain ⟨field, owner, h⟩ := h
  match type with
  | .scalar s =>
    rintro rfl
    cases h
  | .enum _ => trivial
  | .named name =>
    rw [checkType] at h
    exact checkNamed_ok h
  | .array _ => trivial
  | .anonymous name fields =>
    rw [checkType] at h
    exact (checkFields_ok h).1

theorem Checked.named {name : String} (h : Checked schema (.named name)) :
    ∃ d, schema.lookup? name = some d ∧ d.kind ≠ .event := h

/-! ### Definitions -/

theorem checkLabels_ok {enum : String} {before labels : List String}
    (h : checkLabels enum before labels = .ok ()) : ∀ label ∈ labels, isLabel label := by
  induction labels generalizing before with
  | nil => simp
  | cons label rest ih =>
    rw [checkLabels] at h
    simp only at h
    split at h
    · cases h
    split at h
    · cases h
    rename_i hlabel _
    exact List.forall_mem_cons.mpr ⟨by simpa using hlabel, ih h⟩

theorem checkOption_ok {name : String} {type : TypeRef} {implicit : Option String}
    (h : checkOption schema name (some type) implicit = .ok ()) :
    TypeChecks schema type ∧ schema.firstUnreadable? [type] [] = none := by
  obtain ⟨_, htype, h⟩ := bind_eq_ok.mp h
  obtain ⟨_, hreadable, _⟩ := bind_eq_ok.mp h
  exact ⟨⟨_, _, htype⟩, Option.map_eq_none_iff.mp (checkNone_eq_ok.mp hreadable)⟩

theorem eq_none_of_isNone {type : TypeRef} (h : type.isNone) : type = .scalar .none := by
  unfold TypeRef.isNone at h
  split at h
  · rfl
  · cases h

/-- The rules on one definition. A rule on what a definition does not have holds by default. -/
structure Accepted (schema : Schema) (d : Definition) : Prop where
  /-- Values come in by types that may stand in a position. -/
  inputs : ∀ type ∈ d.inputTypes, TypeChecks schema type := by rintro _ ⟨⟩
  /-- A command returns nothing, a signal, or such a type. -/
  result : ∀ type ∈ d.result?, type = .scalar .none ∨ (schema.returnedEvent? type).isSome ∨
    TypeChecks schema type := by rintro _ ⟨⟩
  fieldNames : ∀ field ∈ d.fields, isFieldName field.name := by rintro _ ⟨⟩
  labels : ∀ labels union, d.body = .enum labels union →
    labels ≠ [] ∧ ∀ label ∈ labels, isLabel label := by rintro _ _ ⟨⟩
  members : ∀ members, d.body = .union members → members ≠ [] := by rintro _ ⟨⟩
  readable : ∀ type implicit, d.body = .option (some type) implicit →
    schema.firstUnreadable? [type] [] = none := by rintro _ _ ⟨⟩

theorem checkDefinition_ok {d : Definition} (h : checkDefinition schema d = .ok ()) :
    schema.Accepted d := by
  obtain ⟨name, line, body⟩ := d
  cases body with
  | struct fields =>
    obtain ⟨hnames, htypes⟩ := checkFields_ok h
    exact { inputs := htypes, fieldNames := hnames }
  | enum labels union =>
    simp only [checkDefinition] at h
    split at h
    · cases h
    rename_i hlabels
    refine { labels := ?_ }
    rintro _ _ ⟨⟩
    exact ⟨by simpa using hlabels, checkLabels_ok h⟩
  | union members =>
    simp only [checkDefinition] at h
    split at h
    · cases h
    split at h
    · cases h
    rename_i hmembers _
    obtain ⟨hnames, htypes⟩ := checkFields_ok h
    refine { inputs := htypes, fieldNames := hnames, members := ?_ }
    rintro _ ⟨⟩
    simpa using hmembers
  | handle payload =>
    refine { inputs := ?_ }
    simpa [Definition.inputTypes] using ⟨_, _, h⟩
  | event fields =>
    obtain ⟨_, h, _⟩ := bind_eq_ok.mp h
    obtain ⟨hnames, htypes⟩ := checkFields_ok h
    exact { inputs := htypes, fieldNames := hnames }
  | command params returns =>
    obtain ⟨_, hparams, h⟩ := bind_eq_ok.mp h
    obtain ⟨_, _, h⟩ := bind_eq_ok.mp h
    obtain ⟨hnames, htypes⟩ := checkFields_ok hparams
    refine { inputs := htypes, fieldNames := hnames, result := ?_ }
    rintro _ ⟨⟩
    by_cases hnone : returns.isNone
    · exact .inl (eq_none_of_isNone hnone)
    by_cases hevent : (schema.returnedEvent? returns).isSome
    · exact .inr (.inl hevent)
    simp only [hnone, Option.isNone_iff_eq_none.mpr (Option.not_isSome_iff_eq_none.mp hevent)] at h
    exact .inr (.inr ⟨_, _, h⟩)
  | option type implicit =>
    cases type with
    | none => exact {}
    | some type =>
      obtain ⟨htype, hreadable⟩ := checkOption_ok h
      refine { inputs := ?_, readable := ?_ }
      · simpa [Definition.inputTypes] using htype
      · rintro _ _ ⟨⟩
        exact hreadable

end RpcSchema.Schema
