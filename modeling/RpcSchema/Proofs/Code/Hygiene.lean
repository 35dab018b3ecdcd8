import RpcSchema.Proofs.Code.DeclaredTypes
import RpcSchema.Proofs.Spelling

/-!
# Declared types and names without a path

Generated code uses some types and traits of the standard library without a path, and functions and
the client have type parameters. A declared type of such a name would be taken for it. The verifier
keeps types from most of these names, whatever they are made from. It does not look for the trait of
functions and for the type parameters, so a definition can get one of these names if its name is the
one word in any spelling, and fields in place can.

## Main definitions

* `bareNames` — the names that generated code uses without a path
* `unguardedNames`, `unguardedWords` — those that the verifier does not look for, and their words

## Main results

* `typeName_mem_unguarded_iff` — which definitions get one of these names
* `declaredTypes_hygienic_iff` — when no declared type has a bare name
-/

namespace RpcSchema.Code

open RpcSchema.Naming RpcSchema.Schema

/-- The names that generated code uses without a path for something else than a declared type: types
and traits of the standard library, and the type parameters for handlers and transports. -/
def bareNames : List String :=
  ["Box", "Default", "Fn", "Option", "Result", "Send", "Sized", "String", "Sync", "ToOwned", "Vec",
   "H", "T"]

/-- The bare names that the verifier does not look for. -/
def unguardedNames : List String := ["Fn", "H", "T"]

/-- The words of these names. -/
def unguardedWords : List String := ["fn", "h", "t"]

/-! ### Bare names -/

theorem mem_bareNames_iff {name : String} (h : name ∉ preludeTypes) :
    name ∈ bareNames ↔ name ∈ unguardedNames := by
  have hperm : bareNames.Perm (preludeTypes ++ unguardedNames) := by decide
  rw [hperm.mem_iff, List.mem_append, or_iff_right h]

theorem unguardedNames_eq :
    unguardedNames = unguardedWords.map fun word => String.ofList (raised word.toList) := by
  decide

/-- The type of a definition has an unguarded name if the definition is named by its word alone, in
any spelling and with any separators. -/
theorem typeName_mem_unguarded_iff {name : String} (hname : PlainName name) :
    typeName name ∈ unguardedNames ↔ ∃ word ∈ unguardedWords, SpellsOnly name word := by
  have hescape : ∀ other ∈ unguardedNames,
      other ∉ keywords ∧ other.toList.getLast? ≠ some '_' := by
    decide
  have hsmall : ∀ word ∈ unguardedWords,
      word.toList.all Char.isLower ∧ word.toList ≠ [] := by
    decide
  have hpascal : ∀ word ∈ unguardedWords,
      typeName name = String.ofList (raised word.toList) ↔ SpellsOnly name word := by
    intro word hword
    have hmem : String.ofList (raised word.toList) ∈ unguardedNames :=
      unguardedNames_eq ▸ List.mem_map_of_mem hword
    obtain ⟨hkeyword, hend⟩ := hescape _ hmem
    obtain ⟨hlower, hne⟩ := hsmall word hword
    rw [typeName, escapeKeyword_eq_iff hkeyword hend,
      pascalCase_eq_iff hname (List.all_eq_true.mp hlower) hne]
  rw [unguardedNames_eq, List.mem_map]
  constructor
  · rintro ⟨word, hword, heq⟩
    exact ⟨word, hword, (hpascal word hword).mp heq.symm⟩
  · rintro ⟨word, hword, hspelling⟩
    exact ⟨word, hword, ((hpascal word hword).mpr hspelling).symm⟩

/-! ### Declared types -/

/-- The types of a definition itself: an event gives them endings that no bare name has. -/
theorem ownTypeNames_bare_iff {d : Definition} (hname : PlainName d.name)
    (hprelude : ∀ name ∈ d.ownTypeNames, name ∉ preludeTypes) :
    (∀ name ∈ d.ownTypeNames, name ∉ bareNames) ↔
      (d.isType → d.kind ≠ .event → ∀ word ∈ unguardedWords, ¬SpellsOnly d.name word) := by
  have hendings : ∀ name ∈ bareNames, ∀ ending ∈ ["Event", "Func", "Signal"],
      ¬ending.toList <:+ name.toList := by
    decide
  have hevent : ∀ {start ending : String}, ending ∈ ["Event", "Func", "Signal"] →
      start ++ ending ∉ bareNames := fun hending =>
    append_notMem fun name hname => hendings name hname _ hending
  have htype : typeName d.name ∉ preludeTypes → (typeName d.name ∉ bareNames ↔
      ∀ word ∈ unguardedWords, ¬SpellsOnly d.name word) := by
    intro hfree
    rw [mem_bareNames_iff hfree, typeName_mem_unguarded_iff hname]
    simp only [not_exists, not_and]
  obtain ⟨name, line, body⟩ := d
  cases body with
  | event fields =>
    refine iff_of_true ?_ fun _ hkind => absurd rfl hkind
    rw [Definition.ownTypeNames, List.forall_mem_cons, List.forall_mem_cons,
      List.forall_mem_singleton]
    exact ⟨hevent (by decide), hevent (by decide), hevent (by decide)⟩
  | command params returns =>
    exact iff_of_true (List.forall_mem_nil _) fun htype => absurd htype Bool.false_ne_true
  | option type implicit =>
    exact iff_of_true (List.forall_mem_nil _) fun htype => absurd htype Bool.false_ne_true
  | _ =>
    rw [Definition.ownTypeNames, List.forall_mem_singleton] at hprelude ⊢
    rw [htype hprelude]
    refine ⟨fun h _ _ => h, fun h => h rfl ?_⟩
    rintro ⟨⟩

/-- No declared type has a bare name exactly if no type other than an event is named by an unguarded
word alone, in any spelling, and no fields in place got an unguarded name. -/
theorem declaredTypes_hygienic_iff {schema : Schema} (hv : schema.verify = .ok ())
    (config : Config) : ∃ names, declaredTypes (.of schema config) = .ok names ∧
      ((∀ name ∈ names, name ∉ bareNames) ↔
        (∀ d ∈ schema.definitions, d.isType → d.kind ≠ .event →
          ∀ word ∈ unguardedWords, ¬SpellsOnly d.name word) ∧
        ∀ a ∈ schema.aggregates, a.name ∉ unguardedNames) := by
  obtain ⟨items, himpl⟩ := exists_items (c := .of schema config)
    (fun d hd => (accepted hv hd).members) .typeImpls
  obtain ⟨names, hnames, hperm⟩ : ∃ names, declaredTypes (.of schema config) = .ok names ∧
      names.Perm (schema.definitions.flatMap Definition.ownTypeNames ++
        schema.aggregates.map (·.name) ++ fixedTypeNames) := declaredTypes_perm himpl
  refine ⟨names, hnames, ?_⟩
  have hfixed : ∀ name ∈ fixedTypeNames, name ∉ bareNames := by decide
  have hprelude : ∀ name ∈ schema.definitions.flatMap Definition.ownTypeNames ++
      schema.aggregates.map (·.name), name ∉ preludeTypes := fun name hname =>
    (checkGeneratedNames_ok (generatedNames_ok hv)).prelude name
      (schema.typeNames_perm.mem_iff.mpr hname)
  obtain ⟨hown, hinner⟩ := List.forall_mem_append.mp hprelude
  have hplain : ∀ d ∈ schema.definitions, PlainName d.name := fun d hd =>
    plainName_of_isDefinitionName ((checkNames_ok (names_ok hv)).1 d hd).1
  simp only [hperm.mem_iff]
  rw [List.forall_mem_append, and_iff_left hfixed, List.forall_mem_append]
  refine and_congr ⟨fun h d hd => ?_, fun h name hname => ?_⟩ ?_
  · refine (ownTypeNames_bare_iff (hplain d hd) fun name hname => ?_).mp fun name hname => ?_
    · exact hown name (List.mem_flatMap.mpr ⟨d, hd, hname⟩)
    · exact h name (List.mem_flatMap.mpr ⟨d, hd, hname⟩)
  · obtain ⟨d, hd, hname⟩ := List.mem_flatMap.mp hname
    refine (ownTypeNames_bare_iff (hplain d hd) fun name hname => ?_).mpr (h d hd) name hname
    exact hown name (List.mem_flatMap.mpr ⟨d, hd, hname⟩)
  · rw [List.forall_mem_map]
    exact forall₂_congr fun a ha =>
      not_congr (mem_bareNames_iff (hinner _ (List.mem_map_of_mem ha)))

/-- A struct named like functions and an event, whose type of functions uses that name. -/
def callbackEntries : List Entry.Parsed :=
  [⟨.map [("type", .string "fn"), ("data", .map [])], 1⟩, ⟨.map [("event", .string "MOVED")], 2⟩]

/-- The schema of `callbackEntries`. -/
def callback : Schema where
  definitions := [⟨"fn", 1, .struct []⟩, ⟨"MOVED", 2, .event []⟩]

theorem build_callback : build callbackEntries = .ok callback := rfl

theorem verify_callback : callback.verify = .ok () :=
  verify_eq_ok.mpr ⟨rfl, rfl, rfl, by cbv⟩

theorem declaredTypes_callback_hygienic_iff : callback.verify = .ok () ∧
    ∃ names, declaredTypes (.of callback .default) = .ok names ∧
      ((∀ name ∈ names, name ∉ bareNames) ↔
        (∀ d ∈ callback.definitions, d.isType → d.kind ≠ .event →
          ∀ word ∈ unguardedWords, ¬SpellsOnly d.name word) ∧
        ∀ a ∈ callback.aggregates, a.name ∉ unguardedNames) :=
  ⟨verify_callback, declaredTypes_hygienic_iff verify_callback .default⟩

/-- The struct is declared under the name of the trait of functions. -/
theorem not_declaredTypes_hygienic : ¬∀ entries schema config names,
    build entries = .ok schema → schema.verify = .ok () →
      declaredTypes (.of schema config) = .ok names → ∀ name ∈ names, name ∉ bareNames := by
  intro h
  obtain ⟨items, himpl⟩ : ∃ items, implItems (.of callback .default) = .ok items := ⟨_, rfl⟩
  obtain ⟨names, hnames, hperm⟩ := declaredTypes_perm himpl
  have hbare := h callbackEntries callback .default names build_callback verify_callback hnames
  have hdeclared : "Fn" ∈ names := hperm.mem_iff.mpr List.mem_cons_self
  exact hbare "Fn" hdeclared (by decide)

end RpcSchema.Code
