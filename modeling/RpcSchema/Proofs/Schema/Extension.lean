import RpcSchema.Proofs.Schema.Boundary
import RpcSchema.Proofs.Schema.Order

/-!
# Entries added at the end

Entries that are added after others may announce enums, and a name that was written as that of
another type would then be written as an enum. It does not come to that where both schemas are
accepted: such a name has a definition among the first entries, so two types would share it. Hence
the first entries define what they defined before, and the names in them stand for what they stood
for.

What an entry declares is followed from its result here. Only the names in the types of that result
have to stay what they are; other words of the entry may well be names of enums.

## Main definitions

* `Schema.Untouched` — a type in which no name but that of an enum is among the given ones

## Main results

* `entryDefinitions_of_subset` — an entry declares the same where more enums are known
* `untouched_of_verify` — later enums have none of the names that are written before them
* `definitions_append` — the definitions stay the first ones
* `lookup?_append` — names keep their meaning
-/

namespace RpcSchema.Schema

open RpcSchema.Entry (Value Parsed)

/-! ### More enums -/

/-- A type inside which every name that is not written as an enum is none of the given enums. -/
def Untouched (enums : List String) (type : TypeRef) : Prop :=
  ∀ name, OccursIn (.named name) type → name ∉ enums

section

variable {enums others : List String}

theorem namedType_of_subset (hsubset : enums ⊆ others) {word : String}
    (h : Untouched others (namedType enums word)) :
    namedType others word = namedType enums word := by
  unfold namedType at h ⊢
  cases hscalar : Scalar.ofKeyword? word with
  | some s => rfl
  | none =>
    by_cases hword : word ∈ enums
    · simp [hword, hsubset hword]
    · simp only [hscalar, List.contains_iff_mem, hword, if_false] at h
      simp [hword, h word .self]

mutual

theorem typeRef_of_subset (hsubset : enums ⊆ others) (owner field : String) :
    ∀ (value : Value) (type : TypeRef), typeRef enums owner field value = .ok type →
      Untouched others type → typeRef others owner field value = .ok type
  | .string word, type, hok, h => by
    rw [typeRef, Except.ok.injEq] at hok
    subst hok
    rw [typeRef, namedType_of_subset hsubset h]
  | .list [], type, hok, h => by cases hok
  | .list (_ :: _ :: _), type, hok, h => by cases hok
  | .list [value], type, hok, h => by
    rw [typeRef] at hok ⊢
    obtain ⟨item, hitem, hok⟩ := bind_eq_ok.mp hok
    cases hok
    have hinner : Untouched others item := fun name hname => h name (.item hname)
    exact bind_eq_ok.mpr ⟨item, typeRef_of_subset hsubset owner field value item hitem hinner, rfl⟩
  | .map members, type, hok, h => by
    rw [typeRef] at hok ⊢
    obtain ⟨fields, hfields, hok⟩ := bind_eq_ok.mp hok
    cases hok
    have hinner : ∀ field ∈ fields, Untouched others field.type :=
      fun field hfield name hname => h name (.field hfield hname)
    exact bind_eq_ok.mpr ⟨fields, fieldsOf_of_subset hsubset _ members fields hfields hinner, rfl⟩

theorem fieldsOf_of_subset (hsubset : enums ⊆ others) (owner : String) :
    ∀ (members : List (String × Value)) (fields : List Field),
      fieldsOf enums owner members = .ok fields →
      (∀ field ∈ fields, Untouched others field.type) →
        fieldsOf others owner members = .ok fields
  | [], fields, hok, h => hok
  | (key, value) :: rest, fields, hok, h => by
    rw [fieldsOf] at hok ⊢
    obtain ⟨type, htype, hok⟩ := bind_eq_ok.mp hok
    obtain ⟨more, hmore, hok⟩ := bind_eq_ok.mp hok
    obtain rfl := Except.ok.inj hok
    obtain ⟨hfirst, hrest⟩ := List.forall_mem_cons.mp h
    have htype := typeRef_of_subset hsubset _ _ value type htype hfirst
    have hmore := fieldsOf_of_subset hsubset owner rest more hmore hrest
    exact bind_eq_ok.mpr ⟨type, htype, bind_eq_ok.mpr ⟨more, hmore, rfl⟩⟩

end

variable (hsubset : enums ⊆ others)

include hsubset

theorem fields_of_subset {owner : String} {value : Value} {fs : List Field}
    (hok : fields enums owner value = .ok fs) (h : ∀ type ∈ fieldTypes fs, Untouched others type) :
    fields others owner value = .ok fs := by
  cases value with
  | map members =>
    refine fieldsOf_of_subset hsubset owner members fs hok fun field hfield => ?_
    exact h _ (List.mem_map_of_mem hfield)
  | _ => cases hok

theorem members_of_subset {union owner : String} {data : Value} {ms : List Field}
    (hok : members enums union owner data = .ok ms)
    (h : ∀ type ∈ fieldTypes ms, Untouched others type) :
    members others union owner data = .ok ms := by
  obtain ⟨fs, hfs, hok⟩ := bind_eq_ok.mp hok
  split at hok
  · cases hok
  · rename_i hnone
    cases hok
    refine bind_eq_ok.mpr ⟨ms, fields_of_subset hsubset hfs h, ?_⟩
    rw [hnone]
    rfl

theorem params_of_subset {owner : String} {data : Option Value} {ps : Params}
    (hok : params enums owner data = .ok ps)
    (h : ∀ type ∈ fieldTypes ps.toFields, Untouched others type) :
    params others owner data = .ok ps := by
  unfold params at hok ⊢
  split at hok
  · exact hok
  · exact hok
  · obtain ⟨fs, hfs, hok⟩ := bind_eq_ok.mp hok
    cases hok
    rw [fields_of_subset hsubset hfs h]
    rfl

theorem optionType_of_subset {owner : String} {data : Option Value} {type : Option TypeRef}
    (hok : optionType enums owner data = .ok type) (h : ∀ t ∈ type, Untouched others t) :
    optionType others owner data = .ok type := by
  unfold optionType at hok ⊢
  split at hok
  · exact hok
  · rename_i data
    obtain ⟨t, ht, hok⟩ := bind_eq_ok.mp hok
    cases hok
    -- The type `none` is dropped, and there is no name in it.
    have hkept : Untouched others t := by
      by_cases hnone : t.isNone
      · rw [eq_none_of_isNone hnone]
        intro name hname
        cases hname
      · exact h t (by simp [hnone])
    rw [typeRef_of_subset hsubset owner "data" data t ht hkept]
    rfl

/-- What an entry declares is the same where more enums are known, if they touch none of its
types. -/
theorem bodies_of_subset {hd : Head} {value : Value} {bs : List (String × Body)} {line : Nat}
    (hok : bodies enums hd value = .ok bs)
    (h : ∀ b ∈ bs, ∀ type ∈ (Definition.mk b.1 line b.2).types, Untouched others type) :
    bodies others hd value = .ok bs := by
  have hinput : ∀ b ∈ bs, ∀ type ∈ (Definition.mk b.1 line b.2).inputTypes,
      Untouched others type := fun b hb type htype => h b hb type (mem_types_of_input htype)
  obtain ⟨kind, name⟩ := hd
  cases kind with
  | struct =>
    obtain ⟨data, hdata, hok⟩ := bind_eq_ok.mp hok
    obtain ⟨fs, hfs, hok⟩ := bind_eq_ok.mp hok
    cases hok
    have hfs := fields_of_subset hsubset hfs (hinput _ (.head _))
    exact bind_eq_ok.mpr ⟨data, hdata, bind_eq_ok.mpr ⟨fs, hfs, rfl⟩⟩
  | enum => exact hok
  | union =>
    obtain ⟨data, hdata, hok⟩ := bind_eq_ok.mp hok
    obtain ⟨ms, hms, hok⟩ := bind_eq_ok.mp hok
    cases hok
    have hms := members_of_subset hsubset hms (hinput _ (.tail _ (.head _)))
    exact bind_eq_ok.mpr ⟨data, hdata, bind_eq_ok.mpr ⟨ms, hms, rfl⟩⟩
  | handle =>
    obtain ⟨data, hdata, hok⟩ := bind_eq_ok.mp hok
    obtain ⟨type, htype, hok⟩ := bind_eq_ok.mp hok
    cases hok
    have huntouched := hinput _ (.head _) type (.head _)
    have htype := typeRef_of_subset hsubset _ _ _ _ htype huntouched
    exact bind_eq_ok.mpr ⟨data, hdata, bind_eq_ok.mpr ⟨type, htype, rfl⟩⟩
  | event =>
    simp only [bodies] at hok ⊢
    split at hok
    · obtain ⟨fs, hfs, hok⟩ := bind_eq_ok.mp hok
      cases hok
      exact bind_eq_ok.mpr ⟨fs, fields_of_subset hsubset hfs (hinput _ (.head _)), rfl⟩
    · exact hok
  | command =>
    obtain ⟨ps, hps, hok⟩ := bind_eq_ok.mp hok
    simp only at hok
    split at hok
    · rename_i data hdata
      obtain ⟨returns, hreturns, hok⟩ := bind_eq_ok.mp hok
      cases hok
      have huntouched := h _ (.head _) returns
        (List.mem_append_right _ (List.mem_singleton_self _))
      have hreturns := typeRef_of_subset hsubset _ _ _ _ hreturns huntouched
      refine bind_eq_ok.mpr ⟨ps, params_of_subset hsubset hps (hinput _ (.head _)), ?_⟩
      simp only [hdata]
      exact bind_eq_ok.mpr ⟨returns, hreturns, rfl⟩
    · rename_i hdata
      cases hok
      refine bind_eq_ok.mpr ⟨ps, params_of_subset hsubset hps (hinput _ (.head _)), ?_⟩
      simp only [hdata]
      rfl
  | option =>
    obtain ⟨type, htype, hok⟩ := bind_eq_ok.mp hok
    obtain ⟨implicit, himplicit, hok⟩ := bind_eq_ok.mp hok
    cases hok
    have huntouched : ∀ t ∈ type, Untouched others t := fun t ht =>
      hinput _ (.head _) t (Option.mem_toList.mpr ht)
    have htype := optionType_of_subset hsubset htype huntouched
    exact bind_eq_ok.mpr ⟨type, htype, bind_eq_ok.mpr ⟨implicit, himplicit, rfl⟩⟩

theorem entryDefinitions_of_subset {entry : Parsed} {ds : List Definition}
    (hok : entryDefinitions enums entry = .ok ds)
    (h : ∀ d ∈ ds, ∀ type ∈ d.types, Untouched others type) :
    entryDefinitions others entry = .ok ds := by
  obtain ⟨hd, hhd, hok⟩ := bind_eq_ok.mp hok
  refine bind_eq_ok.mpr ⟨hd, hhd, ?_⟩
  simp only at hok ⊢
  split at hok
  · cases hok
  · obtain ⟨bs, hbs, hok⟩ := bind_eq_ok.mp hok
    cases hok
    have hbodies := bodies_of_subset hsubset hbs fun b hb => h _ (List.mem_map_of_mem hb)
    exact bind_eq_ok.mpr ⟨bs, hbodies, rfl⟩

end

/-! ### More entries -/

theorem subset_announced_append (entries later : List Parsed) :
    announced entries ⊆ announced (entries ++ later) := by
  rw [announced, announced, List.filterMap_append]
  exact List.subset_append_left _ _

/-- The enums that entries announce are those of their schema. -/
theorem mem_announced {entries : List Parsed} {schema : Schema} (h : build entries = .ok schema)
    {name : String} :
    name ∈ announced entries ↔ ∃ d ∈ schema.definitions, d.kind = .enum ∧ d.name = name := by
  obtain ⟨heads, hheads, h⟩ := bind_eq_ok.mp h
  obtain ⟨groups, hgroups, h⟩ := bind_eq_ok.mp h
  cases h
  have hheads := mapM_eq_ok.mp hheads
  rw [← enumNames_eq hheads]
  exact mem_enumNames (forall₂_declares hheads (mapM_eq_ok.mp hgroups))

/-- The names and kinds that an entry declares are those of its head, whatever the enums. -/
theorem Declares.exists_sameName {enums others : List String} {hd : Head}
    {ds again : List Definition} (h : Declares enums hd ds) (hagain : Declares others hd again) :
    ∀ d ∈ ds, ∃ e ∈ again, e.name = d.name ∧ e.kind = d.kind := by
  cases h with
  | single hunion hname hkind _ =>
    cases hagain with
    | single _ hname' hkind' _ => simp [hname, hname', hkind, hkind']
    | union hunion' _ _ _ _ _ => exact absurd hunion' hunion
  | union hunion hname hbody hname' hbody' _ =>
    cases hagain with
    | single hunion' _ _ _ => exact absurd hunion hunion'
    | union _ hagain hagainBody hagain' hagainBody' _ =>
      simp [Definition.kind, Body.kind, *]

variable {entries later : List Parsed} {s t : Schema}

/-- What entries declare is declared under the same names after more entries. -/
theorem exists_sameName (hs : build entries = .ok s) (ht : build (entries ++ later) = .ok t)
    {d : Definition} (hd : d ∈ s.definitions) :
    ∃ e ∈ t.definitions, e.name = d.name ∧ e.kind = d.kind := by
  obtain ⟨declared, hdeclared, hdefinitions⟩ := exists_declared hs
  obtain ⟨redeclared, hredeclared, hredefinitions⟩ := exists_declared ht
  rw [hdefinitions] at hd
  obtain ⟨entry, hentry, hd⟩ := List.mem_flatMap.mp hd
  have hboth := List.mem_append_left later hentry
  obtain ⟨first, hfirst, hdeclares⟩ := entryDefinitions_ok (hdeclared entry hentry)
  obtain ⟨second, hsecond, hagain⟩ := entryDefinitions_ok (hredeclared entry hboth)
  obtain rfl := Except.ok.inj (hfirst.symm.trans hsecond)
  obtain ⟨e, he, hsame⟩ := hdeclares.exists_sameName hagain d hd
  rw [hredefinitions]
  exact ⟨e, List.mem_flatMap.mpr ⟨entry, hboth, he⟩, hsame⟩

/-- No type that is written among the first entries has a name that is announced as an enum later:
the name has a definition, which would share it with the enum. -/
theorem untouched_of_verify (hs : build entries = .ok s) (ht : build (entries ++ later) = .ok t)
    (hsv : s.verify = .ok ()) (htv : t.verify = .ok ()) {type : TypeRef} (hw : s.Writes type) :
    Untouched (announced (entries ++ later)) type := by
  intro name hname hannounced
  have hwrites := hw.of_occursIn hname
  obtain ⟨d, hlookup⟩ := lookup?_of_writes hsv hwrites
  obtain ⟨hd, htype, rfl⟩ := lookup?_some hlookup
  have hkind : d.kind ≠ .enum := fun henum =>
    (build_classified hs).named_ne_enum hwrites d hd henum rfl
  obtain ⟨e, he, hename, hekind⟩ := exists_sameName hs ht hd
  obtain ⟨f, hf, hfkind, hfname⟩ := (mem_announced ht).mp hannounced
  have hetype : e.isType := by rwa [Definition.isType, hekind]
  obtain rfl := eq_of_name_eq htv he hf hetype (isType_of_kind_enum hfkind)
    (hename.trans hfname.symm)
  exact hkind (hekind.symm.trans hfkind)

/-- **Entries added at the end leave the definitions of the others as they are**, where both
schemas are accepted. -/
theorem definitions_append (hs : build entries = .ok s) (ht : build (entries ++ later) = .ok t)
    (hsv : s.verify = .ok ()) (htv : t.verify = .ok ()) :
    ∃ added, t.definitions = s.definitions ++ added := by
  obtain ⟨declared, hdeclared, hdefinitions⟩ := exists_declared hs
  obtain ⟨redeclared, hredeclared, hredefinitions⟩ := exists_declared ht
  have hsame : ∀ entry ∈ entries, redeclared entry = declared entry := by
    intro entry hentry
    have huntouched : ∀ d ∈ declared entry, ∀ type ∈ d.types,
        Untouched (announced (entries ++ later)) type := by
      intro d hd type htype
      have hd : d ∈ s.definitions := by
        rw [hdefinitions]
        exact List.mem_flatMap.mpr ⟨entry, hentry, hd⟩
      exact untouched_of_verify hs ht hsv htv ⟨d, hd, type, htype, .self⟩
    have hagain := entryDefinitions_of_subset (subset_announced_append entries later)
      (hdeclared entry hentry) huntouched
    have hnew := hredeclared entry (List.mem_append_left later hentry)
    exact Except.ok.inj (hnew.symm.trans hagain)
  refine ⟨later.flatMap redeclared, ?_⟩
  rw [hredefinitions, hdefinitions, List.flatMap_append, List.flatMap_congr hsame]

/-- A name that stands for something keeps its meaning where definitions are added. -/
theorem lookup?_append {added : List Definition} (h : t.definitions = s.definitions ++ added)
    {name : String} {d : Definition} (hd : s.lookup? name = some d) : t.lookup? name = some d := by
  rw [lookup?] at hd
  rw [lookup?, h, List.find?_append, hd]
  rfl

end RpcSchema.Schema
