import Mathlib.Data.List.Forall2
import RpcSchema.Proofs.Schema.Building
import RpcSchema.Proofs.Schema.DistinctNames
import RpcSchema.Proofs.Schema.Nesting

/-!
# The order of declaration has no say

Entries may come in any order: neither what each of them declares nor whether all are accepted
depends on it. Building an entry depends on the others through the names that are enums, which are
a set to it (`entryDefinitions_congr`). Verification first compares names in pairs. Where they are
distinct, a lookup finds the one type of a name wherever it stands (`lookup?_perm`), and the rules
on a definition see the schema through lookups only (`checkDefinition_congr`). The search for
recursion starts elsewhere and meets other names first, but it decides whether nesting is well
founded, and that depends on lookups only as well (`contained?_congr`).

## Main definitions

* `announced` — the enums of some entries

## Main results

* `exists_build_iff`, `definitions_of_build` — building, one entry at a time
* `verify_of_perm` — definitions in another order are accepted too
* `build_perm` — entries in another order
-/

namespace RpcSchema.Schema

open RpcSchema.Entry (Value Parsed)

/-! ### Enums are a set -/

section

variable {enums others : List String}

theorem namedType_congr (h : ∀ name, name ∈ enums ↔ name ∈ others) :
    namedType enums = namedType others := by
  funext name
  have hcontains : enums.contains name = others.contains name := by
    rw [Bool.eq_iff_iff, List.contains_iff_mem, List.contains_iff_mem]
    exact h name
  rw [namedType, hcontains, namedType]

mutual

theorem typeRef_congr (h : namedType enums = namedType others) (owner field : String) :
    ∀ value, typeRef enums owner field value = typeRef others owner field value
  | .string name => by rw [typeRef, typeRef, h]
  | .list [] => rfl
  | .list [item] => by rw [typeRef, typeRef, typeRef_congr h owner field item]
  | .list (_ :: _ :: _) => rfl
  | .map members => by rw [typeRef, typeRef, fieldsOf_congr h _ members]

theorem fieldsOf_congr (h : namedType enums = namedType others) (owner : String) :
    ∀ members, fieldsOf enums owner members = fieldsOf others owner members
  | [] => rfl
  | (key, value) :: rest => by
    have hvalue := fun field => typeRef_congr h owner field value
    simp only [fieldsOf, hvalue, fieldsOf_congr h owner rest]

end

/-- What an entry declares depends on the other entries through the set of enums. -/
theorem entryDefinitions_congr (h : ∀ name, name ∈ enums ↔ name ∈ others) :
    entryDefinitions enums = entryDefinitions others := by
  have htype : typeRef enums = typeRef others := by
    funext owner field value
    exact typeRef_congr (namedType_congr h) owner field value
  have hfields : fields enums = fields others := by
    funext owner value
    cases value with
    | map members => exact fieldsOf_congr (namedType_congr h) owner members
    | _ => rfl
  have hbodies : bodies enums = bodies others := by
    funext head value
    simp only [bodies, members, params, optionType, htype, hfields]
  funext entry
  rw [entryDefinitions, hbodies, entryDefinitions]

end

/-! ### Building -/

/-- The enums that some entries announce. -/
def announced (entries : List Parsed) : List String :=
  entries.filterMap fun entry => (head entry.value).toOption.bind Head.enumName?

theorem enumNames_eq {entries : List Parsed} {heads : List Head}
    (h : List.Forall₂ (fun e hd => atLine e.line (head e.value) = .ok hd) entries heads) :
    enumNames heads = announced entries := by
  induction h with
  | nil => rfl
  | @cons entry hd entries heads hhead _ ih =>
    rw [atLine, mapError_eq_ok] at hhead
    simp only [enumNames, announced] at ih ⊢
    rw [List.filterMap_cons, List.filterMap_cons, ih, hhead]
    rfl

/-- A schema is built exactly if each entry has definitions, by the enums that all announce. -/
theorem exists_build_iff {entries : List Parsed} : (∃ schema, build entries = .ok schema) ↔
    ∀ entry ∈ entries, ∃ ds, entryDefinitions (announced entries) entry = .ok ds := by
  constructor
  · rintro ⟨schema, h⟩ entry hentry
    obtain ⟨heads, hheads, h⟩ := bind_eq_ok.mp h
    obtain ⟨groups, hgroups, h⟩ := bind_eq_ok.mp h
    rw [enumNames_eq (mapM_eq_ok.mp hheads)] at hgroups
    obtain ⟨ds, -, hds⟩ := exists_result (mapM_eq_ok.mp hgroups) hentry
    exact ⟨ds, mapError_eq_ok.mp hds⟩
  · intro h
    have hheads : ∀ entry ∈ entries, ∃ hd, atLine entry.line (head entry.value) = .ok hd := by
      intro entry hentry
      obtain ⟨ds, hds⟩ := h entry hentry
      obtain ⟨hd, hhd, -⟩ := entryDefinitions_ok hds
      exact ⟨hd, mapError_eq_ok.mpr hhd⟩
    obtain ⟨heads, hheads⟩ := exists_mapM_eq_ok.mpr hheads
    rw [← enumNames_eq (mapM_eq_ok.mp hheads)] at h
    obtain ⟨groups, hgroups⟩ := exists_mapM_eq_ok.mpr fun entry hentry =>
      exists_mapError_eq_ok.mpr (h entry hentry)
    exact ⟨_, bind_eq_ok.mpr ⟨heads, hheads, bind_eq_ok.mpr ⟨groups, hgroups, rfl⟩⟩⟩

/-- The definitions of a schema are those of its entries, in their order. -/
theorem definitions_of_build {entries : List Parsed} {schema : Schema}
    (h : build entries = .ok schema) {declared : Parsed → List Definition}
    (hdeclared : ∀ entry ∈ entries,
      entryDefinitions (announced entries) entry = .ok (declared entry)) :
    schema.definitions = entries.flatMap declared := by
  obtain ⟨heads, hheads, h⟩ := bind_eq_ok.mp h
  obtain ⟨groups, hgroups, h⟩ := bind_eq_ok.mp h
  cases h
  rw [enumNames_eq (mapM_eq_ok.mp hheads)] at hgroups
  have hall : entries.mapM (fun entry => atLine entry.line
      (entryDefinitions (announced entries) entry)) = .ok (entries.map declared) := by
    refine mapM_eq_ok.mpr (List.forall₂_map_right_iff.mpr ?_)
    exact List.forall₂_same.mpr fun entry hentry => mapError_eq_ok.mpr (hdeclared entry hentry)
  rw [hall] at hgroups
  cases hgroups
  rfl

/-- What each entry of a schema declares. -/
theorem exists_declared {entries : List Parsed} {schema : Schema}
    (h : build entries = .ok schema) : ∃ declared : Parsed → List Definition,
      (∀ entry ∈ entries, entryDefinitions (announced entries) entry = .ok (declared entry)) ∧
        schema.definitions = entries.flatMap declared := by
  have hentries := exists_build_iff.mp ⟨schema, h⟩
  choose! declared hdeclared using hentries
  exact ⟨declared, hdeclared, definitions_of_build h hdeclared⟩

/-! ### Names without an order -/

variable {s t : Schema}

theorem NamesApart.of_perm (h : s.definitions.Perm t.definitions) (hs : s.NamesApart) :
    t.NamesApart := by
  have htypes : s.typeNames.Perm t.typeNames := h.flatMap_right _
  have hnames : ∀ kind, (s.names kind).Perm (t.names kind) := fun kind => (h.filter _).map _
  constructor
  · exact fun name hname => hs.prelude name (htypes.mem_iff.mpr hname)
  · exact htypes.nodup_iff.mp hs.types
  · exact fun name hname => hs.reserved name ((hnames _).mem_iff.mpr hname)
  · exact ((hnames _).map _).nodup_iff.mp hs.methods
  · exact ((hnames _).map _).nodup_iff.mp hs.commandStubs
  · exact ((hnames _).map _).nodup_iff.mp hs.handlers
  · exact ((hnames _).map _).nodup_iff.mp hs.notifiers
  · exact ((hnames _).map _).nodup_iff.mp hs.optionMethods
  · exact ((hnames _).map _).nodup_iff.mp hs.optionStubs

theorem lookup?_perm (h : s.definitions.Perm t.definitions) (hs : s.definitions.Pairwise Apart) :
    s.lookup? = t.lookup? := by
  have ht : t.definitions.Pairwise Apart := (h.pairwise_iff (Std.Symm.symm _ _)).mp hs
  funext name
  refine Option.ext fun d => ?_
  rw [lookup?_eq_some_iff hs, lookup?_eq_some_iff ht, h.mem_iff]

/-! ### Checks that see lookups only -/

mutual

theorem checkType_congr (h : checkNamed s = checkNamed t) (field owner : String) :
    ∀ type, checkType s field owner type = checkType t field owner type
  | .scalar .none => rfl
  | .scalar .str => rfl
  | .scalar .int => rfl
  | .scalar .bool => rfl
  | .scalar .number => rfl
  | .enum _ => rfl
  | .named name => by rw [checkType, checkType, h]
  | .array item => by rw [checkType, checkType, checkType_congr h field owner item]
  | .anonymous name fields => by rw [checkType, checkType, checkFields_congr h name [] fields]

theorem checkFields_congr (h : checkNamed s = checkNamed t) (owner : String)
    (before : List String) :
    ∀ fields, checkFields s owner before fields = checkFields t owner before fields
  | [] => rfl
  | ⟨name, type, optional⟩ :: rest => by
    rw [checkFields, checkFields, checkType_congr h name owner type,
      checkFields_congr h owner _ rest]

end

theorem firstUnreadable?_congr (h : s.readStep = t.readStep) (types : List TypeRef)
    (visited : List String) :
    s.firstUnreadable? types visited = t.firstUnreadable? types visited := by
  fun_induction s.firstUnreadable? types visited with
  | case1 visited => rw [firstUnreadable?]
  | case2 visited type rest unreadable hstep =>
    rw [h] at hstep
    rw [firstUnreadable?]
    split
    · rename_i found hfound
      exact congrArg some (Except.error.inj (hstep.symm.trans hfound))
    · rename_i hfound
      cases hstep.symm.trans hfound
  | case3 visited type rest more next hstep ih =>
    rw [h] at hstep
    rw [firstUnreadable?, ih]
    split
    · rename_i hfound
      cases hstep.symm.trans hfound
    · rename_i hfound
      cases hstep.symm.trans hfound
      rfl

/-- The rules on a definition depend on the other definitions through lookups. -/
theorem checkDefinition_congr (h : s.lookup? = t.lookup?) :
    checkDefinition s = checkDefinition t := by
  have hnamed : checkNamed s = checkNamed t := by
    funext field owner name
    rw [checkNamed, h, checkNamed]
  have hstep : s.readStep = t.readStep := by
    funext type visited
    cases type <;> simp only [readStep, h]
  have hreturned : s.returnedEvent? = t.returnedEvent? := by
    funext type
    cases type <;> simp only [returnedEvent?, h]
  have hfields : s.ownFields = t.ownFields := by
    funext type
    cases type <;> simp only [ownFields, h]
  have hoption : checkOption s = checkOption t := by
    funext name type implicit
    simp only [checkOption, checkType_congr hnamed, firstUnreadable?_congr hstep, hfields]
  funext d
  simp only [checkDefinition, checkType_congr hnamed, checkFields_congr hnamed, hreturned, hoption]

theorem contained?_congr (h : s.lookup? = t.lookup?) : s.contained? = t.contained? := by
  funext name
  rw [contained?, h, contained?]

/-! ### Verification -/

/-- Definitions in another order are accepted too. -/
theorem verify_of_perm (h : s.definitions.Perm t.definitions) (hs : s.verify = .ok ()) :
    t.verify = .ok () := by
  obtain ⟨hnames, hgenerated, hdefinitions, hrecursive⟩ := verify_eq_ok.mp hs
  obtain ⟨hnamed, -, hapart⟩ := checkNames_eq_ok.mp hnames
  have hlookup := lookup?_perm h hapart
  refine verify_eq_ok.mpr ⟨?_, ?_, ?_, ?_⟩
  · refine checkNames_eq_ok.mpr ⟨fun d hd => hnamed d (h.mem_iff.mpr hd), nofun, ?_⟩
    exact (h.pairwise_iff (Std.Symm.symm _ _)).mp hapart
  · exact checkGeneratedNames_eq_ok.mpr ((checkGeneratedNames_eq_ok.mp hgenerated).of_perm h)
  · rw [forM_eq_ok] at hdefinitions ⊢
    intro d hd
    rw [← checkDefinition_congr hlookup]
    exact hdefinitions d (h.mem_iff.mpr hd)
  · have hnests : s.Nests = t.Nests := by
      funext inner outer
      rw [Nests, contained?_congr hlookup, Nests]
    rw [recursive?_eq_none_iff] at hrecursive ⊢
    rwa [← hnests]

/-- **The order of entries has no say.** Entries in another order have a schema if they have one;
it has the same definitions for each entry, in the order of the entries; and it is accepted if the
other one is. -/
theorem build_perm {entries others : List Parsed} (h : entries.Perm others) :
    ((∃ schema, build entries = .ok schema) ↔ ∃ schema, build others = .ok schema) ∧
      ∀ s t, build entries = .ok s → build others = .ok t →
        (∃ declared : Parsed → List Definition,
          (∀ entry ∈ entries, entryDefinitions (announced entries) entry = .ok (declared entry)) ∧
          (∀ entry ∈ others, entryDefinitions (announced others) entry = .ok (declared entry)) ∧
          s.definitions = entries.flatMap declared ∧ t.definitions = others.flatMap declared) ∧
        (s.verify = .ok () ↔ t.verify = .ok ()) := by
  have hsame : entryDefinitions (announced entries) = entryDefinitions (announced others) :=
    entryDefinitions_congr fun name => (h.filterMap _).mem_iff
  have hiff : (∃ schema, build entries = .ok schema) ↔ ∃ schema, build others = .ok schema := by
    rw [exists_build_iff, exists_build_iff, hsame]
    exact forall_congr' fun entry => imp_congr_left h.mem_iff
  refine ⟨hiff, fun s t hs ht => ?_⟩
  have hentries := exists_build_iff.mp ⟨s, hs⟩
  choose! declared hdeclared using hentries
  have hothers : ∀ entry ∈ others,
      entryDefinitions (announced others) entry = .ok (declared entry) := by
    intro entry hentry
    rw [← hsame]
    exact hdeclared entry (h.mem_iff.mpr hentry)
  have hsdefinitions := definitions_of_build hs hdeclared
  have htdefinitions := definitions_of_build ht hothers
  refine ⟨⟨declared, hdeclared, hothers, hsdefinitions, htdefinitions⟩, ?_⟩
  have hperm : s.definitions.Perm t.definitions := by
    rw [hsdefinitions, htdefinitions]
    exact h.flatMap_right declared
  exact ⟨verify_of_perm hperm, verify_of_perm hperm.symm⟩

/-- A struct before the enum that it uses. -/
def leafEntries : List Parsed :=
  [⟨.map [("type", .string "Leaf"), ("data", .map [("color", .string "Color")])], 1⟩,
    ⟨.map [("enum", .string "Color"), ("data", .list [.string "red"])], 2⟩]

/-- The schema of `leafEntries`. -/
def leafSchema : Schema :=
  ⟨[⟨"Leaf", 1, .struct [⟨"color", .enum "Color", false⟩]⟩, ⟨"Color", 2, .enum ["red"] none⟩]⟩

theorem build_leaf : build leafEntries = .ok leafSchema := rfl

theorem verify_leaf : leafSchema.verify = .ok () :=
  verify_eq_ok.mpr ⟨rfl, rfl, rfl, by cbv⟩

/-- The enum may come first: the names are the same, and so is the outcome. -/
theorem build_perm_leaf : leafEntries.Perm leafEntries.reverse ∧ leafSchema.verify = .ok () ∧
    ∃ t, build leafEntries.reverse = .ok t ∧ t.verify = .ok () := by
  have hperm : leafEntries.Perm leafEntries.reverse := (List.reverse_perm _).symm
  obtain ⟨hbuild, hsame⟩ := build_perm hperm
  obtain ⟨t, ht⟩ := hbuild.mp ⟨leafSchema, build_leaf⟩
  exact ⟨hperm, verify_leaf, t, ht, (hsame leafSchema t build_leaf ht).2.mp verify_leaf⟩

end RpcSchema.Schema
