import RpcSchema.Proofs.Code.DeclaredTypes
import RpcSchema.Proofs.Naming

/-!
# Functions declared once

All parts of the generated code may be put into one file, so a function declared twice would not
compile, just as a type would not. A function stands for a type that is released, for a command, an
event or an option, or for a whole schema, and each sort has a beginning of its own. The verifier
keeps apart the functions of commands, of events and of options. Those that release values are named
for the declared types in snake case, and of these it compares the types alone. So types that differ
only in snake case share a function; these are all that can meet.

## Main definitions

* `declaredFunctions` — the functions that all parts together declare
* `releasedNames` — the types that have a function of their own for release
* `functionSorts` — where functions come from

## Main results

* `declaredFunctions_perm` — where the declared functions come from
* `declaredFunctions_nodup_iff` — when they are distinct
-/

namespace RpcSchema

open RpcSchema.Naming

/-! ### Released types -/

/-- The types declared for a definition itself that have a function for release: enums are copied,
and the other two types of an event are names for types that exist. -/
def Definition.releasedNames (d : Definition) : List String :=
  match d.body with
  | .struct _ | .union _ | .handle _ => [typeName d.name]
  | .event _ => [eventTypeName d.name]
  | .enum _ _ | .command _ _ | .option _ _ => []

/-- The types of a schema that have a function for release: those of structs, unions and handles,
the payloads of events, and those for fields in place. -/
def Schema.releasedNames (schema : Schema) : List String :=
  schema.definitions.flatMap Definition.releasedNames ++ schema.aggregates.map (·.name)

theorem Definition.releasedNames_sublist (d : Definition) :
    d.releasedNames.Sublist d.ownTypeNames := by
  obtain ⟨name, line, body⟩ := d
  cases body with
  | event fields => exact (List.nil_sublist _).cons_cons _
  | enum labels union => exact List.nil_sublist _
  | _ => exact .refl _

/-- Released types are declared, so the verifier keeps them apart. -/
theorem Schema.releasedNames_nodup {schema : Schema} (hv : schema.verify = .ok ()) :
    schema.releasedNames.Nodup := by
  have hdeclared := schema.typeNames_perm.nodup_iff.mp
    (checkGeneratedNames_ok (generatedNames_ok hv)).types
  refine hdeclared.sublist (.append_right ?_ _)
  induction schema.definitions with
  | nil => exact .slnil
  | cons d rest ih =>
    rw [List.flatMap_cons, List.flatMap_cons]
    exact d.releasedNames_sublist.append ih

namespace Code

open RpcSchema.Schema

/-! ### Declared functions -/

/-- The functions that some items declare. -/
def functionNames (items : List Item) : List String := items.filterMap Item.functionName?

/-- The functions that all parts of the code together declare. -/
def declaredFunctions (c : Context) : Except Fault (List String) := do
  return functionNames (← Part.all.mapM (Part.items c)).flatten

/-- The functions that every file has. -/
def fixedFunctionNames : List String := ["register_commands", "register_options", "dispatch_event"]

/-- The functions that a schema has, one list for each sort. -/
def functionSorts (schema : Schema) : List (List String) :=
  [schema.releasedNames.map freeFunction, (schema.names .command).map commandStub,
    (schema.names .event).map eventNotifier, (schema.names .option).map optionStub,
    fixedFunctionNames]

variable {c : Context}

theorem functionNames_append (a b : List Item) :
    functionNames (a ++ b) = functionNames a ++ functionNames b :=
  List.filterMap_append

theorem functionNames_flatMap {α : Type} (l : List α) (f : α → List Item) :
    functionNames (l.flatMap f) = l.flatMap fun a => functionNames (f a) :=
  List.filterMap_flatMap

theorem functionNames_flatMap_eq_nil {α : Type} {l : List α} {f : α → List Item}
    (h : ∀ a, functionNames (f a) = []) : functionNames (l.flatMap f) = [] := by
  rw [functionNames_flatMap]
  exact List.flatMap_eq_nil_iff.mpr fun a _ => h a

/-- Items that are all declared in the same way. -/
theorem functionNames_map {α : Type} {l : List α} {f : α → Item} {g : α → String}
    (h : ∀ a, (f a).functionName? = some (g a)) : functionNames (l.map f) = l.map g := by
  rw [functionNames, List.filterMap_map, ← List.filterMap_eq_map]
  exact List.filterMap_congr fun a _ => h a

theorem functionNames_map_eq_nil {α : Type} {l : List α} {f : α → Item}
    (h : ∀ a, (f a).functionName? = none) : functionNames (l.map f) = [] := by
  rw [functionNames, List.filterMap_map]
  exact List.filterMap_eq_nil_iff.mpr fun a _ => h a

/-! #### Parts that declare no functions -/

theorem functionNames_typeItems : functionNames (typeItems c) = [] := by
  refine functionNames_flatMap_eq_nil fun d => ?_
  rw [definitionTypeItems, functionNames_append, functionNames_map_eq_nil fun _ => rfl]
  obtain ⟨name, line, body⟩ := d
  cases body <;> rfl

theorem functionNames_objectWireItems (name : String) (fields : List Field) :
    functionNames (objectWireItems c name fields) = [] := by
  unfold objectWireItems
  split <;> rfl

theorem functionNames_ownWireItems (d : Definition) : functionNames (ownWireItems c d) = [] := by
  obtain ⟨name, line, body⟩ := d
  cases body with
  | struct fields => exact functionNames_objectWireItems _ _
  | event fields => exact functionNames_objectWireItems _ _
  | _ => rfl

theorem functionNames_wireItems : functionNames (wireItems c) = [] := by
  refine functionNames_flatMap_eq_nil fun d => ?_
  rw [definitionWireItems, functionNames_append,
    functionNames_flatMap_eq_nil fun _ => functionNames_objectWireItems _ _, List.nil_append]
  split
  · exact functionNames_ownWireItems d
  · rfl

theorem functionNames_structReadItem (name : String) (fields : List Field) :
    (structReadItem c name fields).functionName? = none := by
  unfold structReadItem
  split <;> rfl

theorem functionNames_ownReadItems (d : Definition) : functionNames (ownReadItems c d) = [] := by
  obtain ⟨name, line, body⟩ := d
  cases body with
  | struct fields => exact List.filterMap_cons_none (functionNames_structReadItem _ _)
  | _ => rfl

theorem functionNames_definitionReadItems (d : Definition) :
    functionNames (definitionReadItems c d) = [] := by
  rw [definitionReadItems, functionNames_append,
    functionNames_map_eq_nil fun _ => functionNames_structReadItem _ _, List.nil_append]
  split
  · exact functionNames_ownReadItems d
  · rfl

/-! #### Parts that declare functions -/

/-- What the generator picks out by kind has the names of that kind. -/
theorem map_name_filterMap {α : Type} {pick : Definition → Option α} {name : α → String}
    {kind : Kind} (h : ∀ d, (pick d).map name = if d.kind = kind then some d.name else none) :
    (c.schema.definitions.filterMap pick).map name = c.schema.names kind := by
  rw [names, ofKind]
  induction c.schema.definitions with
  | nil => rfl
  | cons d rest ih =>
    have hd := h d
    by_cases hkind : d.kind = kind
    · obtain ⟨a, ha, hname⟩ := Option.map_eq_some_iff.mp (hd.trans (if_pos hkind))
      simp [ha, hname, hkind, ih]
    · have hnone := Option.map_eq_none_iff.mp (hd.trans (if_neg hkind))
      simp [hnone, hkind, ih]

theorem functionNames_serverItems : functionNames (serverItems c) =
    (c.schema.names .command).map commandStub ++ ["register_commands"] := by
  have hnames : c.commands.map (·.name) = c.schema.names .command :=
    map_name_filterMap fun d => by obtain ⟨_, _, body⟩ := d; cases body <;> rfl
  rw [serverItems, functionNames_append, functionNames_map fun _ => rfl, ← hnames, List.map_map]
  rfl

theorem functionNames_eventItems : functionNames (eventItems c) =
    (c.schema.names .event).map eventNotifier ++ ["dispatch_event"] := by
  have hnames : c.events.map (·.name) = c.schema.names .event :=
    map_name_filterMap fun d => by obtain ⟨_, _, body⟩ := d; cases body <;> rfl
  rw [eventItems, functionNames_append, functionNames_map fun _ => rfl, ← hnames, List.map_map]
  rfl

theorem functionNames_optionItems : functionNames (optionItems c) =
    (c.schema.names .option).map optionStub ++ ["register_options"] := by
  have hnames : c.options.map (·.name) = c.schema.names .option :=
    map_name_filterMap fun d => by obtain ⟨_, _, body⟩ := d; cases body <;> rfl
  rw [optionItems, functionNames_append, functionNames_append,
    functionNames_flatMap_eq_nil functionNames_definitionReadItems,
    functionNames_map fun _ => rfl, ← hnames, List.map_map]
  rfl

/-! #### Release -/

theorem functionNames_releaseItems (name : String) (type : TypeRef) :
    functionNames (releaseItems c name type) = (freeFunction? c.schema type).toList := by
  rw [releaseItems]
  cases freeFunction? c.schema type <;> rfl

theorem functionNames_implementation (head : String) (members : List Member) (rest : List Item) :
    functionNames (.implementation head members :: rest) = functionNames rest :=
  rfl

theorem functionNames_structImplItems (name : String) (fields : List Field) (type : TypeRef) :
    functionNames (structImplItems c name fields type) = (freeFunction? c.schema type).toList :=
  functionNames_releaseItems name type

/-- The function that releases the type of a definition is named for that type. -/
theorem freeFunction?_named {d : Definition} (hlookup : c.schema.lookup? d.name = some d)
    (h : d.releasedNames ≠ []) :
    (freeFunction? c.schema (.named d.name)).toList = d.releasedNames.map freeFunction := by
  obtain ⟨name, line, body⟩ := d
  rw [freeFunction?, declaredName, hlookup]
  cases body with
  | enum labels union => exact absurd rfl h
  | command params returns => exact absurd rfl h
  | option type implicit => exact absurd rfl h
  | _ => rfl

/-- The functions of a definition release its fields in place and its own type. -/
theorem functionNames_definitionImplItems {d : Definition} {items : List Item}
    (hlookup : d.isType → c.schema.lookup? d.name = some d)
    (h : definitionImplItems c d = .ok items) : functionNames items =
      (d.aggregates.map (·.name)).map freeFunction ++ d.releasedNames.map freeFunction := by
  have hinner : functionNames (d.aggregates.flatMap fun a =>
      structImplItems c a.name a.fields (.anonymous a.name a.fields)) =
        (d.aggregates.map (·.name)).map freeFunction := by
    rw [functionNames_flatMap, List.map_map, List.map_eq_flatMap]
    exact List.flatMap_congr fun a _ => functionNames_structImplItems _ _ _
  obtain ⟨name, line, body⟩ := d
  cases body with
  | struct fields =>
    cases h
    rw [functionNames_append, hinner, functionNames_structImplItems,
      ← freeFunction?_named (hlookup rfl) (List.cons_ne_nil _ _)]
  | enum labels union =>
    cases h
    rw [functionNames_append, hinner]
    rfl
  | union members =>
    cases members with
    | nil => cases h
    | cons first rest =>
      cases h
      rw [functionNames_append, hinner, unionImplItems, functionNames_append,
        functionNames_releaseItems, ← freeFunction?_named (hlookup rfl) (List.cons_ne_nil _ _)]
      rfl
  | handle payload =>
    cases h
    rw [functionNames_append, hinner, handleImplItems, functionNames_implementation,
      functionNames_releaseItems, ← freeFunction?_named (hlookup rfl) (List.cons_ne_nil _ _)]
  | event fields =>
    cases h
    rw [functionNames_append, hinner, eventImplItems, functionNames_implementation,
      functionNames_structImplItems, ← freeFunction?_named (hlookup rfl) (List.cons_ne_nil _ _)]
  | command params returns =>
    cases h
    rw [functionNames_append, hinner]
    rfl
  | option type implicit =>
    cases h
    rw [functionNames_append, hinner]
    rfl

/-- The functions of some definitions, one group of items for each. -/
theorem functionNames_flatten {definitions : List Definition} {groups : List (List Item)}
    (hlookup : ∀ d ∈ definitions, d.isType → c.schema.lookup? d.name = some d)
    (h : List.Forall₂ (fun d items => definitionImplItems c d = .ok items) definitions groups) :
    functionNames groups.flatten = definitions.flatMap fun d =>
      (d.aggregates.map (·.name)).map freeFunction ++ d.releasedNames.map freeFunction := by
  induction h with
  | nil => rfl
  | cons hgroup _ ih =>
    obtain ⟨hd, hrest⟩ := List.forall_mem_cons.mp hlookup
    rw [List.flatten_cons, functionNames_append, List.flatMap_cons, ih hrest,
      functionNames_definitionImplItems hd hgroup]

/-- The functions among the methods of the declared types are those of the released types. -/
theorem functionNames_implItems {items : List Item} (hv : c.schema.verify = .ok ())
    (h : implItems c = .ok items) :
    (functionNames items).Perm (c.schema.releasedNames.map freeFunction) := by
  obtain ⟨groups, hgroups, h⟩ := bind_eq_ok.mp h
  cases h
  rw [functionNames_flatten (fun d hd ht => lookup?_of_mem hv hd ht) (mapM_eq_ok.mp hgroups),
    releasedNames, Schema.aggregates, List.map_append, List.map_flatMap, List.map_flatMap,
    List.map_flatMap]
  exact (List.flatMap_append_perm _ _ _).symm.trans List.perm_append_comm

/-! ### All functions -/

/-- The declared functions come from release, commands, events and options, and from the schema. -/
theorem declaredFunctions_perm {items : List Item} (hv : c.schema.verify = .ok ())
    (h : implItems c = .ok items) : ∃ names, declaredFunctions c = .ok names ∧
      names.Perm (functionSorts c.schema).flatten := by
  have hparts : Part.all.mapM (Part.items c) = .ok [typeItems c, items, wireItems c,
      serverTraitItems c, serverItems c, clientItems c, eventItems c, optionTraitItems c,
      optionItems c] := by
    rw [mapM_eq_ok]
    simp [Part.all, Part.items, h]
  refine ⟨_, by rw [declaredFunctions, hparts]; rfl, ?_⟩
  have hnone : functionNames (serverTraitItems c) = [] ∧ functionNames (clientItems c) = [] ∧
      functionNames (optionTraitItems c) = [] ∧ functionNames [] = [] := ⟨rfl, rfl, rfl, rfl⟩
  have hreleased := functionNames_implItems hv h
  simp only [List.flatten_cons, List.flatten_nil, functionNames_append, functionNames_typeItems,
    functionNames_wireItems, functionNames_serverItems, functionNames_eventItems,
    functionNames_optionItems, hnone, functionSorts, fixedFunctionNames]
  rw [List.perm_iff_count] at hreleased ⊢
  intro name
  simp only [List.count_append, List.count_cons, List.count_nil, hreleased name]
  omega

/-! ### Distinct functions -/

/-- How the functions of each sort begin. -/
def beginnings : List (List String) :=
  [["fr"], ["qm"], ["no"], ["qc"], ["re", "di"]]

theorem beginnings_disjoint : beginnings.Pairwise fun a b => ∀ start ∈ a, start ∉ b := by
  decide

/-- A function begins like all of its sort. -/
def BeginsIn (names starts : List String) : Prop :=
  ∀ name ∈ names, ∃ start ∈ starts, name.toList.take 2 = start.toList

/-- Names that are made by putting the same text before another one begin alike. -/
theorem beginsIn_map {f after : String → String} {names : List String} {head start : String}
    (hf : ∀ name, f name = head ++ after name) (hlong : 2 ≤ head.toList.length)
    (hstart : head.toList.take 2 = start.toList) : BeginsIn (names.map f) [start] := by
  refine List.forall_mem_map.mpr fun name _ => ⟨start, List.mem_singleton_self _, ?_⟩
  rw [hf, String.toList_append, List.take_append_of_le_length hlong, hstart]

theorem beginsIn_functionSorts (schema : Schema) :
    List.Forall₂ BeginsIn (functionSorts schema) beginnings := by
  have hfixed : ∀ name ∈ fixedFunctionNames, ∃ start ∈ ["re", "di"],
      name.toList.take 2 = start.toList := by
    decide
  exact .cons (beginsIn_map (fun _ => rfl) (by decide) (by decide))
    (.cons (beginsIn_map (fun _ => rfl) (by decide) (by decide))
      (.cons (beginsIn_map (fun _ => rfl) (by decide) (by decide))
        (.cons (beginsIn_map (fun _ => rfl) (by decide) (by decide)) (.cons hfixed .nil))))

/-- Lists of names that begin differently have none in common. -/
theorem pairwise_disjoint {sorts starts : List (List String)}
    (h : List.Forall₂ BeginsIn sorts starts)
    (hstarts : starts.Pairwise fun a b => ∀ start ∈ a, start ∉ b) :
    sorts.Pairwise List.Disjoint := by
  induction h with
  | nil => exact .nil
  | cons hsort hrest ih =>
    obtain ⟨hdisjoint, hstarts⟩ := List.pairwise_cons.mp hstarts
    refine List.pairwise_cons.mpr ⟨fun other hother name hname hmem => ?_, ih hstarts⟩
    obtain ⟨otherStarts, hin, hbegins⟩ := exists_result hrest hother
    obtain ⟨start, hstart, heq⟩ := hsort name hname
    obtain ⟨start', hstart', heq'⟩ := hbegins name hmem
    obtain rfl := String.toList_inj.mp (heq.symm.trans heq')
    exact hdisjoint otherStarts hin start hstart hstart'

/-- Functions of different sorts differ, and of all sorts but release the verifier keeps those of
one sort apart. -/
theorem functionSorts_nodup_iff {schema : Schema} (hv : schema.verify = .ok ()) :
    (functionSorts schema).flatten.Nodup ↔ (schema.releasedNames.map freeFunction).Nodup := by
  have hdisjoint := pairwise_disjoint (beginsIn_functionSorts schema) beginnings_disjoint
  have happart := checkGeneratedNames_ok (generatedNames_ok hv)
  have hfixed : fixedFunctionNames.Nodup := by decide
  rw [List.nodup_flatten, and_iff_left hdisjoint, functionSorts]
  simp only [List.forall_mem_cons, happart.commandStubs, happart.notifiers, happart.optionStubs,
    hfixed, true_and]
  exact and_iff_left (List.forall_mem_nil _)

theorem freeFunction_inj {a b : String} :
    freeFunction a = freeFunction b ↔ snakeCase a = snakeCase b := by
  rw [freeFunction, freeFunction, ← String.toList_inj, String.toList_append, String.toList_append,
    List.append_cancel_left_eq, String.toList_inj]

/-- The functions that all parts together declare come from release, commands, events and options,
and from the schema. They are distinct exactly if no two released types have the same snake case.
Types in camel case have different ones. -/
theorem declaredFunctions_nodup_iff {schema : Schema} (hv : schema.verify = .ok ())
    (config : Config) : ∃ names, declaredFunctions (.of schema config) = .ok names ∧
      names.Perm (functionSorts schema).flatten ∧
      (names.Nodup ↔ ∀ a ∈ schema.releasedNames, ∀ b ∈ schema.releasedNames,
        snakeCase a = snakeCase b → a = b) ∧
      ((∀ name ∈ schema.releasedNames, IsCamel name) → names.Nodup) := by
  obtain ⟨items, himpl⟩ := exists_items (c := .of schema config)
    (fun d hd => (accepted hv hd).members) .typeImpls
  obtain ⟨names, hnames, hperm⟩ : ∃ names, declaredFunctions (.of schema config) = .ok names ∧
      names.Perm (functionSorts schema).flatten := declaredFunctions_perm hv himpl
  have hiff : names.Nodup ↔ ∀ a ∈ schema.releasedNames, ∀ b ∈ schema.releasedNames,
      snakeCase a = snakeCase b → a = b := by
    rw [hperm.nodup_iff, functionSorts_nodup_iff hv,
      List.nodup_map_iff_inj_on (releasedNames_nodup hv)]
    simp only [freeFunction_inj]
  exact ⟨names, hnames, hperm, hiff, fun hcamel =>
    hiff.mpr fun a ha b hb => snakeCase_inj (hcamel a ha) (hcamel b hb)⟩

/-- Two structs whose names differ in a run of capitals. -/
def sessionsEntries : List Entry.Parsed :=
  [⟨.map [("type", .string "sessionID"), ("data", .map [])], 1⟩,
    ⟨.map [("type", .string "sessionId"), ("data", .map [])], 2⟩]

/-- The schema of `sessionsEntries`. -/
def sessions : Schema where
  definitions := [⟨"sessionID", 1, .struct []⟩, ⟨"sessionId", 2, .struct []⟩]

theorem build_sessions : build sessionsEntries = .ok sessions := rfl

theorem verify_sessions : sessions.verify = .ok () :=
  verify_eq_ok.mpr ⟨rfl, rfl, rfl, by cbv⟩

theorem declaredFunctions_sessions_nodup_iff : sessions.verify = .ok () ∧
    ∃ names, declaredFunctions (.of sessions .default) = .ok names ∧
      names.Perm ["free_session_id", "free_session_id", "register_commands", "register_options",
        "dispatch_event"] ∧
      (names.Nodup ↔ ∀ a ∈ ["SessionID", "SessionId"], ∀ b ∈ ["SessionID", "SessionId"],
        snakeCase a = snakeCase b → a = b) ∧
      ((∀ name ∈ ["SessionID", "SessionId"], IsCamel name) → names.Nodup) :=
  ⟨verify_sessions, declaredFunctions_nodup_iff verify_sessions .default⟩

/-- The function that releases the two structs is declared twice. -/
theorem not_declaredFunctions_nodup : ¬∀ entries schema config names,
    build entries = .ok schema → schema.verify = .ok () →
      declaredFunctions (.of schema config) = .ok names → names.Nodup := by
  intro h
  obtain ⟨items, himpl⟩ : ∃ items, implItems (.of sessions .default) = .ok items := ⟨_, rfl⟩
  obtain ⟨names, hnames, hperm⟩ := declaredFunctions_perm verify_sessions himpl
  have hnodup := h sessionsEntries sessions .default names build_sessions verify_sessions hnames
  have htwice : ¬["free_session_id", "free_session_id", "register_commands", "register_options",
      "dispatch_event"].Nodup := by
    decide
  exact htwice (hperm.nodup_iff.mp hnodup)

end Code

end RpcSchema
