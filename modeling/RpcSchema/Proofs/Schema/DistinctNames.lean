import Mathlib.Data.List.Nodup
import RpcSchema.Proofs.Schema.Verified

/-!
# Generated names are distinct

The verifier compares the names that generated code would declare, one sort at a time. Names of
types come from definitions and from fields in place. The two sources are kept apart here, so that
distinct names give distinct fields in place.

## Main definitions

* `Schema.NamesApart` — the rules on generated names
* `Definition.ownTypeNames` — the types declared for a definition itself

## Main results

* `checkGeneratedNames_eq_ok` — what the check decides
* `Definition.typeNames_perm` — the two sources of type names
* `aggregate_eq_of_name_eq` — fields in place are told apart by their names
-/

namespace RpcSchema

open RpcSchema.Naming

namespace Schema

/-! ### The rules -/

/-- The search for a repeated name finds none if the names are distinct and new. -/
theorem firstRepeated?_eq_none {before names : List String} :
    firstRepeated? before names = none ↔ (∀ name ∈ names, name ∉ before) ∧ names.Nodup := by
  induction names generalizing before with
  | nil => simp [firstRepeated?]
  | cons name rest ih =>
    rw [firstRepeated?, List.forall_mem_cons, List.nodup_cons]
    split
    · rename_i h
      have hbefore : name ∈ before := by simpa using h
      simp [hbefore]
    · rename_i h
      have hbefore : name ∉ before := by simpa using h
      rw [ih]
      constructor
      · rintro ⟨hrest, hnodup⟩
        refine ⟨⟨hbefore, fun other hother hmem => ?_⟩, fun hmem => ?_, hnodup⟩
        · exact hrest other hother (List.mem_append_left _ hmem)
        · exact hrest name hmem (List.mem_append_right _ List.mem_cons_self)
      · rintro ⟨⟨-, hrest⟩, hname, hnodup⟩
        refine ⟨fun other hother hmem => ?_, hnodup⟩
        rcases List.mem_append.mp hmem with hmem | hmem
        · exact hrest other hother hmem
        · obtain rfl := List.mem_singleton.mp hmem
          exact hname hother

theorem checkDistinct_eq_ok {what : String} {names : List String} :
    checkDistinct what names = .ok () ↔ names.Nodup := by
  rw [checkDistinct, checkNone_eq_ok, Option.map_eq_none_iff, firstRepeated?_eq_none]
  simp

/-- The rules on the names that generated code would have. -/
structure NamesApart (schema : Schema) : Prop where
  prelude : ∀ name ∈ schema.typeNames, name ∉ preludeTypes
  types : schema.typeNames.Nodup
  reserved : ∀ name ∈ schema.names .command, memberName name ∉ reservedCommands
  methods : ((schema.names .command).map memberName).Nodup
  commandStubs : ((schema.names .command).map commandStub).Nodup
  handlers : ((schema.names .event).map memberName).Nodup
  notifiers : ((schema.names .event).map eventNotifier).Nodup
  optionMethods : ((schema.names .option).map memberName).Nodup
  optionStubs : ((schema.names .option).map optionStub).Nodup

theorem checkGeneratedNames_eq_ok {schema : Schema} :
    checkGeneratedNames schema = .ok () ↔ schema.NamesApart := by
  simp only [checkGeneratedNames, check_bind_eq_ok, checkDistinct_eq_ok, checkNone_eq_ok,
    Option.map_eq_none_iff, List.find?_eq_none, List.contains_iff_mem]
  constructor
  · rintro ⟨hprelude, htypes, hreserved, hmethods, hstubs, hhandlers, hnotifiers, hoptions,
      hoptionStubs⟩
    exact ⟨hprelude, htypes, hreserved, hmethods, hstubs, hhandlers, hnotifiers, hoptions,
      hoptionStubs⟩
  · rintro ⟨hprelude, htypes, hreserved, hmethods, hstubs, hhandlers, hnotifiers, hoptions,
      hoptionStubs⟩
    exact ⟨hprelude, htypes, hreserved, hmethods, hstubs, hhandlers, hnotifiers, hoptions,
      hoptionStubs⟩

theorem checkGeneratedNames_ok {schema : Schema} (h : checkGeneratedNames schema = .ok ()) :
    schema.NamesApart :=
  checkGeneratedNames_eq_ok.mp h

end Schema

/-! ### The names of types -/

/-- The types declared for a definition itself, without those for fields in place. -/
def Definition.ownTypeNames (d : Definition) : List String :=
  match d.body with
  | .struct _ | .enum _ _ | .union _ | .handle _ => [typeName d.name]
  | .event _ => [eventTypeName d.name, eventFuncName d.name, eventSignalName d.name]
  | .command _ _ | .option _ _ => []

/-- The types declared for a definition are its own and those for the fields in place. -/
theorem Definition.typeNames_perm (d : Definition) :
    d.typeNames.Perm (d.ownTypeNames ++ d.aggregates.map (·.name)) := by
  obtain ⟨name, line, body⟩ := d
  cases body with
  | struct fields => exact (anonymousFieldNames_perm fields).cons _
  | enum labels union => exact .refl _
  | union members => exact (anonymousFieldNames_perm members).cons _
  | handle payload => exact (anonymousNames_perm payload).cons _
  | event fields => exact (anonymousFieldNames_perm fields).append_left _
  | command params returns =>
    simp only [typeNames, ownTypeNames, aggregates, List.nil_append, List.map_append]
    exact (anonymousFieldNames_perm params.toFields).append (anonymousNames_perm returns)
  | option type implicit =>
    cases type with
    | none => exact .refl _
    | some type => exact anonymousNames_perm type

namespace Schema

variable {schema : Schema}

theorem typeNames_perm (schema : Schema) : schema.typeNames.Perm
    (schema.definitions.flatMap Definition.ownTypeNames ++ schema.aggregates.map (·.name)) := by
  have hpointwise := List.Perm.flatMap_left schema.definitions fun d _ => d.typeNames_perm
  refine hpointwise.trans ?_
  rw [aggregates, List.map_flatMap]
  exact (List.flatMap_append_perm _ _ _).symm

/-- Fields in place are told apart by their names. -/
theorem aggregate_eq_of_name_eq (hv : schema.verify = .ok ()) {a b : Aggregate}
    (ha : a ∈ schema.aggregates) (hb : b ∈ schema.aggregates) (h : a.name = b.name) : a = b := by
  have htypes := (checkGeneratedNames_ok (generatedNames_ok hv)).types
  have hnames := (schema.typeNames_perm.nodup_iff.1 htypes).of_append_right
  exact List.inj_on_of_nodup_map hnames ha hb h

end Schema

end RpcSchema
