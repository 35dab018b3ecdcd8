import RpcSchema.Proofs.Schema.DistinctNames
import RpcSchema.Proofs.Schema.Soundness

/-!
# Types declared once

All parts of the generated code may be put into one file, so a type declared twice would not
compile. The declared types are those of the definitions, those for fields in place, and four that
every file has. The verifier keeps the first two sorts apart from each other and the definitions
apart from the four. It does not compare the made names of fields in place with the four; these
are all that can still meet.

## Main definitions

* `declaredTypes` — the types that all parts together declare
* `fixedTypeNames` — the four types that every file has

## Main results

* `declaredTypes_perm` — where the declared types come from
* `declaredTypes_nodup_iff` — when they are distinct
-/

namespace RpcSchema.Code

open RpcSchema.Naming RpcSchema.Schema

/-- The types that all parts of the code together declare. -/
def declaredTypes (c : Context) : Except Fault (List String) := do
  return (← Part.all.mapM (Part.items c)).flatten.flatMap Item.typeNames

/-- The types that every file has. -/
def fixedTypeNames : List String := ["QmpHandlers", "QmpClient", "QmpEventHandlers", "QcfgHandlers"]

variable {c : Context}

/-! ### Parts that declare no types -/

/-- Items that declare no types. -/
def Typeless (items : List Item) : Prop := ∀ item ∈ items, item.typeNames = []

theorem Typeless.append {a b : List Item} (ha : Typeless a) (hb : Typeless b) :
    Typeless (a ++ b) :=
  List.forall_mem_append.mpr ⟨ha, hb⟩

theorem Typeless.cons {item : Item} {rest : List Item} (hitem : item.typeNames = [])
    (hrest : Typeless rest) : Typeless (item :: rest) :=
  List.forall_mem_cons.mpr ⟨hitem, hrest⟩

theorem typeless_nil : Typeless [] := nofun

theorem typeless_map {α : Type} {l : List α} {f : α → Item} (h : ∀ a, (f a).typeNames = []) :
    Typeless (l.map f) :=
  List.forall_mem_map.mpr fun a _ => h a

theorem typeless_flatMap {α : Type} {l : List α} {f : α → List Item}
    (h : ∀ a ∈ l, Typeless (f a)) : Typeless (l.flatMap f) := by
  intro item hitem
  obtain ⟨a, ha, hitem⟩ := List.mem_flatMap.mp hitem
  exact h a ha item hitem

theorem Typeless.typeNames {items : List Item} (h : Typeless items) :
    items.flatMap Item.typeNames = [] :=
  List.flatMap_eq_nil_iff.mpr h

theorem typeless_releaseItems (name : String) (type : TypeRef) :
    Typeless (releaseItems c name type) := by
  refine .cons rfl ?_
  split
  · exact .cons rfl typeless_nil
  · exact typeless_nil

theorem typeless_structImplItems (name : String) (fields : List Field) (type : TypeRef) :
    Typeless (structImplItems c name fields type) :=
  .cons rfl (typeless_releaseItems name type)

theorem typeless_definitionImplItems {d : Definition} {items : List Item}
    (h : definitionImplItems c d = .ok items) : Typeless items := by
  have hinner : Typeless (d.aggregates.flatMap fun a =>
      structImplItems c a.name a.fields (.anonymous a.name a.fields)) :=
    typeless_flatMap fun _ _ => typeless_structImplItems _ _ _
  obtain ⟨name, line, body⟩ := d
  cases body with
  | struct fields =>
    cases h
    exact hinner.append (typeless_structImplItems _ _ _)
  | enum labels union =>
    cases h
    exact hinner.append (.cons rfl (.cons rfl (.cons rfl typeless_nil)))
  | union members =>
    cases members with
    | nil => cases h
    | cons first rest =>
      cases h
      exact hinner.append (.cons rfl (.cons rfl (typeless_releaseItems _ _)))
  | handle payload =>
    cases h
    exact hinner.append (.cons rfl (typeless_releaseItems _ _))
  | event fields =>
    cases h
    exact hinner.append (.cons rfl (typeless_structImplItems _ _ _))
  | command params returns =>
    cases h
    exact hinner.append typeless_nil
  | option type implicit =>
    cases h
    exact hinner.append typeless_nil

theorem typeless_implItems {items : List Item} (h : implItems c = .ok items) :
    Typeless items := by
  obtain ⟨groups, hgroups, h⟩ := bind_eq_ok.mp h
  cases h
  intro item hitem
  obtain ⟨group, hgroup, hitem⟩ := List.mem_flatten.mp hitem
  obtain ⟨d, -, hd⟩ := exists_item (mapM_eq_ok.mp hgroups) hgroup
  exact typeless_definitionImplItems hd item hitem

theorem typeless_objectWireItems (name : String) (fields : List Field) :
    Typeless (objectWireItems c name fields) := by
  unfold objectWireItems
  split <;> exact .cons rfl (.cons rfl typeless_nil)

theorem typeless_ownWireItems (d : Definition) : Typeless (ownWireItems c d) := by
  obtain ⟨name, line, body⟩ := d
  cases body with
  | struct fields => exact typeless_objectWireItems _ _
  | enum labels union => exact .cons rfl (.cons rfl typeless_nil)
  | union members => exact .cons rfl (.cons rfl typeless_nil)
  | handle payload => exact .cons rfl (.cons rfl typeless_nil)
  | event fields => exact typeless_objectWireItems _ _
  | command params returns => exact typeless_nil
  | option type implicit => exact typeless_nil

theorem typeless_wireItems : Typeless (wireItems c) := by
  refine typeless_flatMap fun d _ => .append (typeless_flatMap fun a _ => ?_) ?_
  · exact typeless_objectWireItems _ _
  · split
    · exact typeless_ownWireItems d
    · exact typeless_nil

theorem typeNames_structReadItem (name : String) (fields : List Field) :
    (structReadItem c name fields).typeNames = [] := by
  unfold structReadItem
  split <;> rfl

theorem typeless_ownReadItems (d : Definition) : Typeless (ownReadItems c d) := by
  obtain ⟨name, line, body⟩ := d
  cases body with
  | struct fields => exact .cons (typeNames_structReadItem _ _) typeless_nil
  | enum labels union => exact .cons rfl typeless_nil
  | _ => exact typeless_nil

theorem typeless_optionItems : Typeless (optionItems c) := by
  refine .append (.append (typeless_flatMap fun d _ => .append (typeless_map fun a => ?_) ?_)
    (typeless_map fun option => rfl)) (.cons rfl typeless_nil)
  · exact typeNames_structReadItem _ _
  · split
    · exact typeless_ownReadItems d
    · exact typeless_nil

theorem typeless_serverItems : Typeless (serverItems c) :=
  .append (typeless_map fun _ => rfl) (.cons rfl (.cons rfl typeless_nil))

/-! ### Parts that declare types -/

theorem typeNames_definitionTypeItems (d : Definition) :
    (definitionTypeItems c d).flatMap Item.typeNames =
      d.aggregates.map (·.name) ++ d.ownTypeNames := by
  rw [definitionTypeItems, List.flatMap_append, List.flatMap_map]
  congr 1
  · exact List.map_eq_flatMap.symm
  · obtain ⟨name, line, body⟩ := d
    cases body <;> rfl

theorem typeNames_eventItems : (eventItems c).flatMap Item.typeNames = ["QmpEventHandlers"] := by
  have hnotify : Typeless (c.events.map fun event => .function (notifyFunction c event)) :=
    typeless_map fun _ => rfl
  rw [eventItems, List.flatMap_append, hnotify.typeNames]
  rfl

/-- The declared types are those of the definitions and the four that every file has. -/
theorem declaredTypes_eq {items : List Item} (h : implItems c = .ok items) :
    declaredTypes c = .ok ((c.schema.definitions.flatMap fun d =>
      d.aggregates.map (·.name) ++ d.ownTypeNames) ++ fixedTypeNames) := by
  have hparts : Part.all.mapM (Part.items c) = .ok [typeItems c, items, wireItems c,
      serverTraitItems c, serverItems c, clientItems c, eventItems c, optionTraitItems c,
      optionItems c] := by
    rw [mapM_eq_ok]
    simp [Part.all, Part.items, h]
  have htypes : (typeItems c).flatMap Item.typeNames = c.schema.definitions.flatMap fun d =>
      d.aggregates.map (·.name) ++ d.ownTypeNames := by
    rw [typeItems, List.flatMap_assoc]
    exact List.flatMap_congr fun d _ => typeNames_definitionTypeItems d
  rw [declaredTypes, hparts]
  simp only [bind, Except.bind, pure, Except.pure, List.flatten_cons, List.flatten_nil,
    List.flatMap_append, htypes, (typeless_implItems h).typeNames, typeless_wireItems.typeNames,
    typeless_serverItems.typeNames, typeNames_eventItems, typeless_optionItems.typeNames]
  rfl

/-- The declared types come from the definitions, from fields in place and from the fixed ones. -/
theorem declaredTypes_perm {items : List Item} (h : implItems c = .ok items) :
    ∃ names, declaredTypes c = .ok names ∧
      names.Perm (c.schema.definitions.flatMap Definition.ownTypeNames ++
        c.schema.aggregates.map (·.name) ++ fixedTypeNames) := by
  refine ⟨_, declaredTypes_eq h, .append_right _ ?_⟩
  rw [Schema.aggregates, List.map_flatMap]
  exact (List.flatMap_append_perm _ _ _).symm.trans List.perm_append_comm

/-! ### Distinct names -/

/-- A name is not among some that all end differently. -/
theorem append_notMem {names : List String} {start ending : String}
    (h : ∀ name ∈ names, ¬ending.toList <:+ name.toList) : start ++ ending ∉ names := by
  intro hmem
  have hsuffix : ending.toList <:+ (start ++ ending).toList := by
    rw [String.toList_append]
    exact List.suffix_append _ _
  exact h _ hmem hsuffix

/-- No type of an event has the name of a fixed one: the endings differ. -/
theorem append_ne_fixedTypeName {start ending : String}
    (h : ending ∈ ["Event", "Func", "Signal"]) : start ++ ending ∉ fixedTypeNames := by
  have hfixed : ∀ name ∈ fixedTypeNames, ∀ ending ∈ ["Event", "Func", "Signal"],
      ¬ending.toList <:+ name.toList := by
    decide
  exact append_notMem fun name hname => hfixed name hname ending h

/-- No type of a definition has the name of a fixed one: the verifier reserves these. -/
theorem ownTypeNames_ne_fixed {schema : Schema} (hv : schema.verify = .ok ()) {d : Definition}
    (hd : d ∈ schema.definitions) : ∀ name ∈ d.ownTypeNames, name ∉ fixedTypeNames := by
  have hreserved := ((checkNames_ok (names_ok hv)).1 d hd).2
  have hsubset : fixedTypeNames ⊆ reservedNames := by decide
  obtain ⟨name, line, body⟩ := d
  cases body with
  | event fields =>
    rw [Definition.ownTypeNames, List.forall_mem_cons, List.forall_mem_cons,
      List.forall_mem_singleton]
    exact ⟨append_ne_fixedTypeName (by decide), append_ne_fixedTypeName (by decide),
      append_ne_fixedTypeName (by decide)⟩
  | command params returns => exact List.forall_mem_nil _
  | option type implicit => exact List.forall_mem_nil _
  | _ =>
    rw [Definition.ownTypeNames, List.forall_mem_singleton]
    exact fun hmem => hreserved rfl (hsubset hmem)

/-- The types declared by all parts together come from the definitions, from fields in place and
from the fixed ones. They are distinct exactly if no fields in place got a fixed name. -/
theorem declaredTypes_nodup_iff {schema : Schema} (hv : schema.verify = .ok ()) (config : Config) :
    ∃ names, declaredTypes (.of schema config) = .ok names ∧
      names.Perm (schema.definitions.flatMap Definition.ownTypeNames ++
        schema.aggregates.map (·.name) ++ fixedTypeNames) ∧
      (names.Nodup ↔ ∀ a ∈ schema.aggregates, a.name ∉ fixedTypeNames) := by
  obtain ⟨items, himpl⟩ := exists_items (c := .of schema config)
    (fun d hd => (accepted hv hd).members) .typeImpls
  obtain ⟨names, hnames, hperm⟩ : ∃ names, declaredTypes (.of schema config) = .ok names ∧
      names.Perm (schema.definitions.flatMap Definition.ownTypeNames ++
        schema.aggregates.map (·.name) ++ fixedTypeNames) := declaredTypes_perm himpl
  refine ⟨names, hnames, hperm, ?_⟩
  have hapart : (schema.definitions.flatMap Definition.ownTypeNames ++
      schema.aggregates.map (·.name)).Nodup :=
    schema.typeNames_perm.nodup_iff.mp (checkGeneratedNames_ok (generatedNames_ok hv)).types
  have hfixed : fixedTypeNames.Nodup := by decide
  rw [hperm.nodup_iff, List.nodup_append]
  constructor
  · rintro ⟨-, -, hdisjoint⟩ a ha hmem
    exact hdisjoint _ (List.mem_append_right _ (List.mem_map_of_mem ha)) _ hmem rfl
  · refine fun h => ⟨hapart, hfixed, ?_⟩
    rintro name hname _ hmem rfl
    rcases List.mem_append.mp hname with hname | hname
    · obtain ⟨d, hd, hname⟩ := List.mem_flatMap.mp hname
      exact ownTypeNames_ne_fixed hv hd name hname hmem
    · obtain ⟨a, ha, rfl⟩ := List.mem_map.mp hname
      exact h a ha hmem

/-- Fields in place that get the name of the client. -/
def clashEntries : List Entry.Parsed :=
  [⟨.map [("type", .string "Qmp"), ("data", .map [("client", .map [("x", .string "int")])])], 1⟩]

/-- The schema of `clashEntries`. -/
def clash : Schema where
  definitions := [
    ⟨"Qmp", 1, .struct
      [⟨"client", .anonymous "QmpClient" [⟨"x", .scalar .int, false⟩], false⟩]⟩]

theorem build_clash : build clashEntries = .ok clash := rfl

theorem verify_clash : clash.verify = .ok () :=
  verify_eq_ok.mpr ⟨rfl, rfl, rfl, by cbv⟩

theorem declaredTypes_clash_nodup_iff : clash.verify = .ok () ∧
    ∃ names, declaredTypes (.of clash .default) = .ok names ∧
      names.Perm ["Qmp", "QmpClient", "QmpHandlers", "QmpClient", "QmpEventHandlers",
        "QcfgHandlers"] ∧
      (names.Nodup ↔ ∀ a ∈ clash.aggregates, a.name ∉ fixedTypeNames) :=
  ⟨verify_clash, declaredTypes_nodup_iff verify_clash .default⟩

/-- The name of the client is declared twice. -/
theorem not_declaredTypes_nodup : ¬∀ entries schema config names, build entries = .ok schema →
    schema.verify = .ok () → declaredTypes (.of schema config) = .ok names → names.Nodup := by
  intro h
  obtain ⟨items, himpl⟩ : ∃ items, implItems (.of clash .default) = .ok items := ⟨_, rfl⟩
  have hnodup : (["QmpClient", "Qmp"] ++ fixedTypeNames).Nodup :=
    h clashEntries clash .default _ build_clash verify_clash (declaredTypes_eq himpl)
  exact absurd hnodup (by decide)

end RpcSchema.Code
