import RpcSchema.Proofs.Schema.Nesting

/-!
# What the search for recursion finds

A value of a struct, union or handle contains the values of its fields, of its member or of its
payload, and fields in place are part of it. A list may be empty, so what stands in a list is not
contained. Generated types are finite exactly if no struct, union or handle contains itself at any
remove, and this is what the verifier decides.

The containment of the schema is stated here without the search, and the search without its bound
on the depth: a rule for each thing that it can meet. A derivation from these rules is a search that
ends.

## Main definitions

* `Directly`, `Contained` — a name stands in a type outside of all lists; containment between
  structs, unions and handles
* `Search` — the search depth first, with no bound on the depth

## Main results

* `cycle_iff` — the names inside themselves are the same for containment and for the search
* `Search.unique`, `search_descendAll` — the search ends, and in one way only
* `recursion_exact` — the verifier refuses recursion and nothing else
-/

namespace RpcSchema

/-! ### Containment -/

/-- A name stands in a type: as the type itself, or among fields in place at any depth. -/
inductive Directly (name : String) : TypeRef → Prop
  | named : Directly name (.named name)
  | field {owner : String} {fields : List Field} {field : Field} :
    field ∈ fields → Directly name field.type → Directly name (.anonymous owner fields)

/-- The definitions whose values contain values of other types. -/
def Definition.IsAggregate (d : Definition) : Prop :=
  d.kind = .struct ∨ d.kind = .union ∨ d.kind = .handle

namespace Schema

open Relation (TransGen)

/-- A struct, union or handle is directly contained in another one: a field, required or optional, a
member or the payload of the outer one has a type in which the name of the inner one stands. -/
def Contained (schema : Schema) (inner outer : String) : Prop :=
  ∃ i o, schema.lookup? inner = some i ∧ i.IsAggregate ∧ schema.lookup? outer = some o ∧
    o.IsAggregate ∧ ∃ type ∈ o.inputTypes, Directly inner type

end Schema

theorem directFieldNames_eq (fields : List Field) :
    directFieldNames fields = (fieldTypes fields).flatMap directNames := by
  induction fields with
  | nil => rfl
  | cons field rest ih =>
    rw [directFieldNames, ih]
    rfl

theorem mem_directNames {name : String} {type : TypeRef} :
    name ∈ directNames type ↔ Directly name type := by
  induction type using TypeRef.induct with
  | scalar s => exact ⟨fun h => absurd h List.not_mem_nil, nofun⟩
  | enum other => exact ⟨fun h => absurd h List.not_mem_nil, nofun⟩
  | array item ih => exact ⟨fun h => absurd h List.not_mem_nil, nofun⟩
  | named other =>
    rw [directNames, List.mem_singleton]
    refine ⟨fun h => h ▸ .named, fun h => ?_⟩
    cases h with
    | named => rfl
  | anonymous owner fields ih =>
    rw [directNames, directFieldNames_eq, List.mem_flatMap]
    constructor
    · rintro ⟨type, htype, hname⟩
      obtain ⟨field, hfield, rfl⟩ := List.mem_map.mp htype
      exact .field hfield ((ih field hfield).mp hname)
    · intro h
      cases h with
      | field hfield h => exact ⟨_, List.mem_map_of_mem hfield, (ih _ hfield).mpr h⟩

namespace Schema

open Relation (TransGen)

variable {schema : Schema} {name inner outer : String} {names : List String}

/-- The search looks into structs, unions and handles. -/
theorem contained?_eq_some : schema.contained? name = some names ↔
    ∃ d, schema.lookup? name = some d ∧ d.IsAggregate ∧
      d.inputTypes.flatMap directNames = names := by
  cases hlookup : schema.lookup? name with
  | none => simp [contained?, hlookup]
  | some d =>
    obtain ⟨_, line, body⟩ := d
    cases body <;> simp [contained?, hlookup, Definition.IsAggregate, Definition.kind, Body.kind,
      Definition.inputTypes, directFieldNames_eq]

/-- What the search goes through is containment, and also names that contain nothing. -/
theorem nests_iff : schema.Nests inner outer ↔ ∃ o, schema.lookup? outer = some o ∧
    o.IsAggregate ∧ ∃ type ∈ o.inputTypes, Directly inner type := by
  constructor
  · rintro ⟨names, hnames, hinner⟩
    obtain ⟨o, hlookup, ho, rfl⟩ := contained?_eq_some.mp hnames
    obtain ⟨type, htype, hname⟩ := List.mem_flatMap.mp hinner
    exact ⟨o, hlookup, ho, type, htype, mem_directNames.mp hname⟩
  · rintro ⟨o, hlookup, ho, type, htype, hname⟩
    exact ⟨_, contained?_eq_some.mpr ⟨o, hlookup, ho, rfl⟩,
      List.mem_flatMap.mpr ⟨type, htype, mem_directNames.mpr hname⟩⟩

theorem Contained.nests (h : schema.Contained inner outer) : schema.Nests inner outer := by
  obtain ⟨i, o, -, -, hlookup, ho, hinner⟩ := h
  exact nests_iff.mpr ⟨o, hlookup, ho, hinner⟩

/-- Below a struct, union or handle the two relations agree at any remove. -/
theorem transGen_contained {i : Definition} (hlookup : schema.lookup? inner = some i)
    (hi : i.IsAggregate) (h : TransGen schema.Nests inner outer) :
    TransGen schema.Contained inner outer := by
  induction h using TransGen.head_induction_on generalizing i with
  | single hnests =>
    obtain ⟨o, hother, ho, hinner⟩ := nests_iff.mp hnests
    exact .single ⟨i, o, hlookup, hi, hother, ho, hinner⟩
  | head hnests _ ih =>
    obtain ⟨o, hother, ho, hinner⟩ := nests_iff.mp hnests
    exact .head ⟨i, o, hlookup, hi, hother, ho, hinner⟩ (ih hother ho)

/-- A name inside itself contains something, so it is a struct, union or handle. -/
theorem cycle_iff : TransGen schema.Nests name name ↔ TransGen schema.Contained name name := by
  constructor
  · intro h
    obtain ⟨_, -, hlast⟩ := TransGen.tail'_iff.mp h
    obtain ⟨d, hlookup, hd, -⟩ := nests_iff.mp hlast
    exact transGen_contained hlookup hd h
  · exact fun h => TransGen.mono (fun _ _ => Contained.nests) _ _ h

/-! ### The search without a bound -/

/-- The search below some names, one after the other, from inside the names `path` and with the
names `done` finished, comes to an outcome: the names finished after it, or the first name found
inside itself. -/
inductive Search (schema : Schema) :
    List String → List String → List String → Except String (List String) → Prop
  | nil {path done : List String} : Search schema path done [] (.ok done)
  /-- a name with nothing to look into -/
  | leaf {path done rest : List String} {name : String} {outcome : Except String (List String)} :
    schema.contained? name = none → Search schema path done rest outcome →
    Search schema path done (name :: rest) outcome
  /-- a name that the search is inside of -/
  | nested {path done rest names : List String} {name : String} :
    schema.contained? name = some names → name ∈ path →
    Search schema path done (name :: rest) (.error name)
  /-- a name that was finished before -/
  | finished {path done rest names : List String} {name : String}
    {outcome : Except String (List String)} :
    schema.contained? name = some names → name ∉ path → name ∈ done →
    Search schema path done rest outcome → Search schema path done (name :: rest) outcome
  /-- a name below which a name is found inside itself -/
  | fail {path done rest names : List String} {name found : String} :
    schema.contained? name = some names → name ∉ path → name ∉ done →
    Search schema (name :: path) done names (.error found) →
    Search schema path done (name :: rest) (.error found)
  /-- a name that is finished -/
  | finish {path done after rest names : List String} {name : String}
    {outcome : Except String (List String)} :
    schema.contained? name = some names → name ∉ path → name ∉ done →
    Search schema (name :: path) done names (.ok after) →
    Search schema path (name :: after) rest outcome →
    Search schema path done (name :: rest) outcome

variable {path done : List String} {depth : Nat} {outcome other : Except String (List String)}

/-- No two rules apply to the same search. -/
theorem Search.unique (h : schema.Search path done names outcome)
    (h' : schema.Search path done names other) : outcome = other := by
  induction h generalizing other with
  | nil =>
    cases h'
    rfl
  | leaf hnone _ ih => cases h' <;> grind
  | nested hsome hpath => cases h' <;> grind
  | finished hsome hnew hold _ ih => cases h' <;> grind
  | fail hsome hnew hnot _ ih => cases h' <;> grind
  | finish hsome hnew hnot _ _ ih ihrest => cases h' <;> grind

/-- With depth for all definitions that it is not inside of, the bounded search is the search. -/
theorem search_descendAll (hinside : schema.Inside depth path) :
    schema.Search path done names (schema.descendAll depth path done names) := by
  induction depth generalizing path done names with
  | zero =>
    induction names generalizing done with
    | nil =>
      rw [descendAll]
      exact .nil
    | cons name rest ih =>
      rw [descendAll, descend]
      cases hcontained : schema.contained? name with
      | none => exact .leaf hcontained ih
      | some names =>
        have hpath : name ∈ path := hinside.mem_of_zero (mem_of_contained? hcontained)
        simp only [List.contains_iff_mem, hpath, if_true]
        exact .nested hcontained hpath
  | succ depth ihdepth =>
    induction names generalizing done with
    | nil =>
      rw [descendAll]
      exact .nil
    | cons name rest ih =>
      rw [descendAll, descend]
      cases hcontained : schema.contained? name with
      | none => exact .leaf hcontained ih
      | some names =>
        by_cases hpath : name ∈ path
        · simp only [List.contains_iff_mem, hpath, if_true]
          exact .nested hcontained hpath
        by_cases hdone : name ∈ done
        · simp only [List.contains_iff_mem, hpath, hdone, if_true, if_false]
          exact .finished hcontained hpath hdone ih
        simp only [List.contains_iff_mem, hpath, hdone, if_false]
        have hbelow : schema.Search (name :: path) done names _ :=
          ihdepth (hinside.cons hpath (mem_of_contained? hcontained))
        cases hresult : schema.descendAll depth (name :: path) done names with
        | error found => exact .fail hcontained hpath hdone (hresult ▸ hbelow)
        | ok after => exact .finish hcontained hpath hdone (hresult ▸ hbelow) ih

/-! ### The check -/

/-- The search from every definition ends with the name that the check reports. -/
theorem recursive?_eq_some_iff : schema.recursive? = some name ↔
    schema.Search [] [] (schema.definitions.map (·.name)) (.error name) := by
  have hsearch : schema.Search [] [] (schema.definitions.map (·.name)) _ :=
    search_descendAll ⟨.nil, List.nil_subset _, rfl⟩
  rw [recursive?]
  split
  · rename_i hresult
    rw [hresult] at hsearch
    exact ⟨nofun, fun h => absurd (h.unique hsearch) nofun⟩
  · rename_i found hresult
    rw [hresult] at hsearch
    exact ⟨fun h => Option.some.inj h ▸ hsearch,
      fun h => congrArg some (Except.error.inj (hsearch.unique h))⟩

/-- Without a name inside itself there is nothing to report. -/
theorem recursive?_eq_none_iff_forall :
    schema.recursive? = none ↔ ∀ name, ¬TransGen schema.Contained name name := by
  constructor
  · intro h name hcycle
    have hwf := recursive?_eq_none_iff.mp h
    exact hwf.transGen.asymmetric name name (cycle_iff.mpr hcycle) (cycle_iff.mpr hcycle)
  · intro h
    cases hfound : schema.recursive? with
    | none => rfl
    | some name => exact absurd (cycle_iff.mp (transGen_of_recursive? hfound)) (h name)

/-- In a schema that keeps all other rules, the search for recursion ends, and in one way only. It
reports a name if and only if some struct, union or handle contains itself, and the name is one that
does. If recursion passes through lists only, the schema is accepted. -/
theorem recursion_exact (hnames : checkNames [] schema.definitions = .ok ())
    (hgenerated : checkGeneratedNames schema = .ok ())
    (hdefinitions : schema.definitions.forM (checkDefinition schema) = .ok ()) :
    ∃ outcome, (∀ other, schema.Search [] [] (schema.definitions.map (·.name)) other ↔
        other = outcome) ∧
      ((∃ name, outcome = .error name) ↔ ∃ name, TransGen schema.Contained name name) ∧
      (∀ name, outcome = .error name →
        TransGen schema.Contained name name ∧ schema.verify = .error (.recursion name)) ∧
      ((∀ name, ¬TransGen schema.Contained name name) → schema.verify = .ok ()) := by
  have hsearch : schema.Search [] [] (schema.definitions.map (·.name)) _ :=
    search_descendAll ⟨.nil, List.nil_subset _, rfl⟩
  have hverify : schema.verify = checkNone (schema.recursive?.map .recursion) := by
    rw [verify, bind_of_eq_ok hnames, bind_of_eq_ok hgenerated, bind_of_eq_ok hdefinitions]
  have hreport : ∀ name, schema.descendAll schema.definitions.length [] []
      (schema.definitions.map (·.name)) = .error name ↔ schema.recursive? = some name := by
    intro name
    rw [recursive?_eq_some_iff]
    exact ⟨fun h => h ▸ hsearch, hsearch.unique⟩
  refine ⟨_, fun other => ⟨fun h => h.unique hsearch, fun h => h ▸ hsearch⟩, ?_, ?_, ?_⟩
  · simp only [hreport]
    rw [← Option.ne_none_iff_exists', Ne, recursive?_eq_none_iff_forall]
    simp
  · intro name h
    have hfound := (hreport name).mp h
    refine ⟨cycle_iff.mp (transGen_of_recursive? hfound), ?_⟩
    rw [hverify, hfound]
    rfl
  · intro h
    rw [hverify, recursive?_eq_none_iff_forall.mpr h]
    rfl

/-- A union of fields in place, one of which may hold a struct around the union, and a tree, which
is recursive through a list only. -/
def nest : Schema where
  definitions := [
    ⟨"Tree", 1, .struct [⟨"children", .array (.named "Tree"), false⟩]⟩,
    ⟨"NestKind", 2, .enum ["twig"] (some "Nest")⟩,
    ⟨"Nest", 2, .union [⟨"twig", .anonymous "NestTwig" [⟨"egg", .named "Egg", true⟩], false⟩]⟩,
    ⟨"Egg", 3, .struct [⟨"tree", .named "Tree", false⟩, ⟨"nest", .named "Nest", true⟩]⟩]

theorem contained_nest : nest.Contained "Egg" "Nest" ∧ nest.Contained "Nest" "Egg" := by
  constructor
  · exact ⟨_, _, rfl, .inl rfl, rfl, .inr (.inl rfl), _, List.mem_cons_self,
      .field List.mem_cons_self .named⟩
  · exact ⟨_, _, rfl, .inr (.inl rfl), rfl, .inl rfl, _,
      List.mem_cons_of_mem _ List.mem_cons_self, .named⟩

/-- The nest is refused for a name inside itself. -/
theorem recursion_exact_nest : checkNames [] nest.definitions = .ok () ∧
    checkGeneratedNames nest = .ok () ∧
    nest.definitions.forM (checkDefinition nest) = .ok () ∧
    ∃ name, nest.Search [] [] ["Tree", "NestKind", "Nest", "Egg"] (.error name) ∧
      TransGen nest.Contained name name ∧ nest.verify = .error (.recursion name) := by
  have hnames : checkNames [] nest.definitions = .ok () := rfl
  have hgenerated : checkGeneratedNames nest = .ok () := rfl
  have hdefinitions : nest.definitions.forM (checkDefinition nest) = .ok () := rfl
  obtain ⟨outcome, hsearch, hcycle, hreport, -⟩ := recursion_exact hnames hgenerated hdefinitions
  obtain ⟨hegg, hnest⟩ := contained_nest
  obtain ⟨name, rfl⟩ := hcycle.mpr ⟨"Egg", .tail (.single hegg) hnest⟩
  exact ⟨hnames, hgenerated, hdefinitions, name, (hsearch _).mpr rfl, hreport name rfl⟩

end Schema

end RpcSchema
