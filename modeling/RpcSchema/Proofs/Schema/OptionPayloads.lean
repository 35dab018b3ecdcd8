import RpcSchema.Proofs.Schema.Readability
import RpcSchema.Proofs.Schema.Soundness

/-!
# What option text is read as

The value of an option is read by going into its type: into the items of a list, the fields in
place, and the fields of a struct, and so on from there. Where the verifier accepts an option, none
of this ends at something that text cannot express. Where it complains, the name in its complaint
is one that is met in this way, so it refuses no option without need.

The search behind it stops at a struct that it has seen. That it still finds everything is what
`expressible_of_reaches` says. Here is the other half, that whatever it finds can be met, and where
the complaint can come from: no other check makes it.

## Main definitions

* `Schema.ReadsInto`, `Schema.ReadsThrough` — one step and any number of steps into a type
* `Schema.Legible` — a type as which text can be read
* `Schema.HasOwnKey` — the keys that a type has by itself
* `Schema.Spares` — a check that never complains about what an option is read as

## Main results

* `firstUnreadable?_eq_none_iff` — the search finds nothing exactly if every name is a struct
* `exists_of_verify_unreadable` — where the complaint comes from
* `payloads_legible` — accepted options can be read, and refused ones cannot
-/

namespace RpcSchema.Schema

variable {schema : Schema}

/-! ### Going into types -/

/-- One step into a type: to the items of a list, to a field in place, or to a field of a
struct. -/
inductive ReadsInto (schema : Schema) : TypeRef → TypeRef → Prop
  | item {type : TypeRef} : ReadsInto schema (.array type) type
  | field {name : String} {fields : List Field} {field : Field} (hfield : field ∈ fields) :
    ReadsInto schema (.anonymous name fields) field.type
  | member {name : String} {d : Definition} {fields : List Field} {field : Field}
    (hlookup : schema.lookup? name = some d) (hbody : d.body = .struct fields)
    (hfield : field ∈ fields) : ReadsInto schema (.named name) field.type

/-- Any number of steps into a type. -/
def ReadsThrough (schema : Schema) : TypeRef → TypeRef → Prop :=
  Relation.ReflTransGen schema.ReadsInto

/-- A type as which text can be read: a scalar other than `none`, an enum, a list, fields in place,
or a name that is that of a struct. -/
def Legible (schema : Schema) : TypeRef → Prop
  | .scalar s => s ≠ .none
  | .enum _ => True
  | .named name => ∃ d, schema.lookup? name = some d ∧ d.kind = .struct
  | .array _ => True
  | .anonymous _ _ => True

/-- The keys that a type has by itself: the fields in place, or those of a struct. -/
inductive HasOwnKey (schema : Schema) (key : String) : TypeRef → Prop
  | inPlace {name : String} {fields : List Field} {field : Field} (hfield : field ∈ fields)
    (hname : field.name = key) : HasOwnKey schema key (.anonymous name fields)
  | struct {name : String} {d : Definition} {fields : List Field} {field : Field}
    (hlookup : schema.lookup? name = some d) (hbody : d.body = .struct fields)
    (hfield : field ∈ fields) (hname : field.name = key) : HasOwnKey schema key (.named name)

theorem ReadsInto.leads {type part : TypeRef} (h : schema.ReadsInto type part) :
    schema.Leads type part := by
  cases h with
  | item => exact .item
  | field hfield => exact .field (List.mem_map_of_mem hfield)
  | member hlookup hbody hfield =>
    refine .mention hlookup ?_
    rw [mentions_struct hbody]
    exact List.mem_map_of_mem hfield

theorem ReadsThrough.reaches {type part : TypeRef} (h : schema.ReadsThrough type part) :
    schema.Reaches type part :=
  Relation.ReflTransGen.mono (fun _ _ => ReadsInto.leads) _ _ h

/-! ### What the search finds -/

/-- A step of the search goes into its type. -/
theorem readsInto_of_readStep {type part : TypeRef} {visited more : List String}
    {types : List TypeRef} (h : schema.readStep type visited = .ok (types, more))
    (hpart : part ∈ types) : schema.ReadsInto type part := by
  cases type with
  | scalar s => cases h; exact absurd hpart List.not_mem_nil
  | enum name => cases h; exact absurd hpart List.not_mem_nil
  | array item =>
    cases h
    obtain rfl := List.mem_singleton.mp hpart
    exact .item
  | anonymous name fields =>
    cases h
    obtain ⟨field, hfield, rfl⟩ := List.mem_map.mp hpart
    exact .field hfield
  | named name =>
    simp only [readStep] at h
    split at h
    · cases h
    rename_i d hlookup
    split at h
    · rename_i fields hbody
      split at h
      · cases h
        exact absurd hpart List.not_mem_nil
      · cases h
        obtain ⟨field, hfield, rfl⟩ := List.mem_map.mp hpart
        exact .member hlookup hbody hfield
    · cases h

/-- A name that a step of the search complains about is that of no struct. -/
theorem readStep_eq_error {type : TypeRef} {visited : List String} {what : Unreadable}
    (h : schema.readStep type visited = .error what) :
    type = .named what.name ∧ what.kind = (schema.lookup? what.name).map Definition.kind ∧
      what.kind ≠ some .struct := by
  cases type with
  | named name =>
    simp only [readStep] at h
    split at h
    · rename_i hnone
      cases h
      exact ⟨rfl, by rw [hnone]; rfl, by simp⟩
    rename_i d hlookup
    split at h
    · split at h <;> cases h
    · rename_i hstruct
      cases h
      refine ⟨rfl, by rw [hlookup]; rfl, ?_⟩
      intro hkind
      cases hbody : d.body with
      | struct fields => exact hstruct fields hbody
      | _ => rw [hbody] at hkind; cases hkind
  | _ => cases h

/-- Whatever the search finds is met on the way through one of its types, and names no struct. -/
theorem exists_of_firstUnreadable? {types : List TypeRef} {visited : List String}
    {what : Unreadable} (h : schema.firstUnreadable? types visited = some what) :
    (∃ type ∈ types, schema.ReadsThrough type (.named what.name)) ∧
      what.kind = (schema.lookup? what.name).map Definition.kind ∧ what.kind ≠ some .struct := by
  fun_induction firstUnreadable? with
  | case1 visited => cases h
  | case2 visited type rest found hstep =>
    cases h
    obtain ⟨rfl, hkind⟩ := readStep_eq_error hstep
    exact ⟨⟨_, List.mem_cons_self, .refl⟩, hkind⟩
  | case3 visited type rest types more hstep ih =>
    obtain ⟨⟨part, hpart, hreads⟩, hkind⟩ := ih h
    refine ⟨?_, hkind⟩
    obtain hpart | hpart := List.mem_append.mp hpart
    · exact ⟨type, List.mem_cons_self, hreads.head (readsInto_of_readStep hstep hpart)⟩
    · exact ⟨part, List.mem_cons_of_mem _ hpart, hreads⟩

/-- The search below a type finds nothing exactly if all names on the way are those of structs. -/
theorem firstUnreadable?_eq_none_iff (type : TypeRef) :
    schema.firstUnreadable? [type] [] = none ↔
      ∀ part, schema.ReadsThrough type part → schema.Expressible part := by
  constructor
  · intro h part hreads
    exact expressible_of_reaches h hreads.reaches
  · intro h
    by_contra hfound
    obtain ⟨what, hwhat⟩ := Option.ne_none_iff_exists'.mp hfound
    obtain ⟨⟨_, htype, hreads⟩, hkind, hne⟩ := exists_of_firstUnreadable? hwhat
    obtain rfl := List.mem_singleton.mp htype
    obtain ⟨d, hlookup, hstruct⟩ := h _ hreads
    rw [hlookup, Option.map_some, hstruct] at hkind
    exact hne hkind

/-! ### Accepted options -/

/-- What is met on the way through an accepted type is written in the schema and is accepted
itself, in whatever position. -/
theorem typeChecks_of_readsThrough (hv : schema.verify = .ok ()) {type part : TypeRef}
    (hw : schema.Writes type) (h : TypeChecks schema type)
    (hreads : schema.ReadsThrough type part) :
    schema.Writes part ∧ TypeChecks schema part := by
  induction hreads with
  | refl => exact ⟨hw, h⟩
  | tail _ hstep ih =>
    obtain ⟨hwrites, hchecks⟩ := ih
    cases hstep with
    | item =>
      exact ⟨hwrites.of_occursIn (.item .self), hchecks.of_occursIn (.item .self)⟩
    | field hfield =>
      exact ⟨hwrites.of_occursIn (.field hfield .self), hchecks.of_occursIn (.field hfield .self)⟩
    | @member name d fields field hlookup hbody hfield =>
      have hd : d ∈ schema.definitions := (lookup?_some hlookup).1
      have hinput : field.type ∈ d.inputTypes := by
        rw [Definition.inputTypes, hbody]
        exact List.mem_map_of_mem hfield
      exact ⟨⟨d, hd, _, mem_types_of_input hinput, .self⟩, (accepted hv hd).inputs _ hinput⟩

theorem legible_of_checked {type : TypeRef} (h : Checked schema type)
    (hexpressible : schema.Expressible type) : schema.Legible type := by
  cases type with
  | scalar s => exact h
  | named name => exact hexpressible
  | _ => trivial

theorem hasOwnKey_of_ownFields {type : TypeRef} {key : String} {field : Field}
    (hfield : field ∈ schema.ownFields type) (hname : field.name = key) :
    schema.HasOwnKey key type := by
  unfold ownFields at hfield
  split at hfield
  · exact .inPlace hfield hname
  · split at hfield
    · rename_i hlookup
      exact .struct hlookup rfl hfield hname
    · exact absurd hfield List.not_mem_nil
  · exact absurd hfield List.not_mem_nil

/-- The implicit key of an accepted option is one of its type. -/
theorem hasOwnKey_of_checkOption {name key : String} {type : TypeRef}
    (h : checkOption schema name (some type) (some key) = .ok ()) : schema.HasOwnKey key type := by
  obtain ⟨_, _, h⟩ := bind_eq_ok.mp h
  obtain ⟨_, _, h⟩ := bind_eq_ok.mp h
  have hany := checkNone_eq_ok.mp h
  simp only [Option.bind_some, ite_eq_left_iff, reduceCtorEq, imp_false, Bool.not_eq_true,
    Bool.not_eq_false] at hany
  obtain ⟨field, hfield, hname⟩ := List.any_eq_true.mp hany
  exact hasOwnKey_of_ownFields hfield (beq_iff_eq.mp hname)

/-! ### Where the complaint comes from -/

/-- A check that may fail, but never because an option cannot be read. -/
def Spares (check : Check) : Prop := ∀ option what, check ≠ .error (.unreadable option what)

theorem spares_ok : Spares (.ok ()) := by
  intro option what h
  cases h

theorem spares_error {fault : VerifyFault} (h : ∀ option what, fault ≠ .unreadable option what) :
    Spares (.error fault) :=
  fun option what heq => h option what (Except.error.inj heq)

theorem spares_bind {check : Check} {next : Unit → Check} (hcheck : Spares check)
    (hnext : ∀ u, Spares (next u)) : Spares (check >>= next) := by
  intro option what h
  obtain h | ⟨u, -, h⟩ := bind_eq_error.mp h
  · exact hcheck option what h
  · exact hnext u option what h

theorem spares_checkNone {fault? : Option VerifyFault}
    (h : ∀ option what, fault? ≠ some (.unreadable option what)) : Spares (checkNone fault?) := by
  intro option what hcheck
  cases fault? with
  | none => cases hcheck
  | some fault => cases hcheck; exact h option what rfl

theorem spares_map {α : Type} {fault : α → VerifyFault}
    (h : ∀ a option what, fault a ≠ .unreadable option what) (a? : Option α) :
    Spares (checkNone (a?.map fault)) := by
  refine spares_checkNone fun option what hmap => ?_
  obtain ⟨a, -, ha⟩ := Option.map_eq_some_iff.mp hmap
  exact h a option what ha

theorem spares_checkNames (before ds : List Definition) : Spares (checkNames before ds) := by
  induction ds generalizing before with
  | nil => exact spares_ok
  | cons d rest ih =>
    refine spares_bind (spares_checkNone fun option what h => ?_) fun _ => ih _
    unfold nameFault? at h
    split at h
    · cases h
    split at h
    · cases h
    split at h <;> cases h

theorem spares_checkDistinct (what : String) (names : List String) :
    Spares (checkDistinct what names) :=
  spares_map (by simp) _

theorem spares_checkGeneratedNames (schema : Schema) : Spares (checkGeneratedNames schema) := by
  refine spares_bind (spares_map (by simp) _) fun _ => ?_
  refine spares_bind (spares_checkDistinct _ _) fun _ => ?_
  refine spares_bind (spares_map (by simp) _) fun _ => ?_
  refine spares_bind (spares_checkDistinct _ _) fun _ => ?_
  refine spares_bind (spares_checkDistinct _ _) fun _ => ?_
  refine spares_bind (spares_checkDistinct _ _) fun _ => ?_
  refine spares_bind (spares_checkDistinct _ _) fun _ => ?_
  exact spares_bind (spares_checkDistinct _ _) fun _ => spares_checkDistinct _ _

theorem spares_checkFieldName (before : List String) (field owner : String) :
    Spares (checkFieldName before field owner) := by
  unfold checkFieldName
  split
  · exact spares_error (by simp)
  split
  · exact spares_error (by simp)
  · exact spares_ok

theorem spares_checkFields {owner : String} {fields : List Field}
    (h : ∀ field ∈ fields, ∀ position holder, Spares (checkType schema position holder field.type))
    (before : List String) : Spares (checkFields schema owner before fields) := by
  induction fields generalizing before with
  | nil => exact spares_ok
  | cons field rest ih =>
    obtain ⟨hfield, hrest⟩ := List.forall_mem_cons.mp h
    rw [checkFields]
    refine spares_bind (spares_checkFieldName _ _ _) fun _ => ?_
    exact spares_bind (hfield _ _) fun _ => ih hrest _

theorem spares_checkType (type : TypeRef) (field owner : String) :
    Spares (checkType schema field owner type) := by
  induction type using TypeRef.induct generalizing field owner with
  | scalar s =>
    cases s with
    | none => exact spares_error (by simp)
    | _ => exact spares_ok
  | enum name => exact spares_ok
  | named name =>
    rw [checkType, checkNamed]
    split
    · exact spares_error (by simp)
    split
    · exact spares_error (by simp)
    · exact spares_ok
  | array item ih =>
    rw [checkType]
    exact ih field owner
  | anonymous name fields ih =>
    rw [checkType]
    exact spares_checkFields (fun field hfield => ih field hfield) []

theorem spares_fields (owner : String) (before : List String) (fields : List Field) :
    Spares (checkFields schema owner before fields) :=
  spares_checkFields (fun field _ => spares_checkType field.type) before

theorem spares_checkLabels (enum : String) (before labels : List String) :
    Spares (checkLabels enum before labels) := by
  induction labels generalizing before with
  | nil => exact spares_ok
  | cons label rest ih =>
    rw [checkLabels]
    split
    · exact spares_error (by simp)
    split
    · exact spares_error (by simp)
    · exact ih _

/-- Only what an option is read as is complained about, by the name of the option. -/
theorem checkOption_unreadable {name option : String} {type : Option TypeRef}
    {implicit : Option String} {what : Unreadable}
    (h : checkOption schema name type implicit = .error (.unreadable option what)) :
    name = option ∧ ∃ payload, type = some payload ∧
      schema.firstUnreadable? [payload] [] = some what := by
  cases type with
  | none =>
    simp only [checkOption] at h
    split at h <;> cases h
  | some payload =>
    obtain htype | ⟨_, -, h⟩ := bind_eq_error.mp h
    · exact absurd htype (spares_checkType payload _ _ option what)
    obtain hread | ⟨_, -, hkey⟩ := bind_eq_error.mp h
    · cases hfound : schema.firstUnreadable? [payload] [] with
      | none => rw [hfound] at hread; cases hread
      | some found =>
        rw [hfound] at hread
        cases hread
        exact ⟨rfl, payload, rfl, hfound⟩
    · refine absurd hkey (spares_checkNone (fun option what hfault => ?_) option what)
      obtain ⟨key, -, hfault⟩ := Option.bind_eq_some_iff.mp hfault
      split at hfault <;> cases hfault

/-- Of all definitions only options are complained about in this way. -/
theorem checkDefinition_unreadable {d : Definition} {option : String} {what : Unreadable}
    (h : checkDefinition schema d = .error (.unreadable option what)) :
    d.name = option ∧ ∃ payload implicit, d.body = .option (some payload) implicit ∧
      schema.firstUnreadable? [payload] [] = some what := by
  obtain ⟨name, line, body⟩ := d
  cases body with
  | option type implicit =>
    obtain ⟨hname, payload, rfl, hfound⟩ := checkOption_unreadable h
    exact ⟨hname, payload, implicit, rfl, hfound⟩
  | struct fields => exact absurd h (spares_fields name [] fields option what)
  | handle payload => exact absurd h (spares_checkType payload _ _ option what)
  | enum labels union =>
    simp only [checkDefinition] at h
    split at h
    · cases h
    · exact absurd h (spares_checkLabels name [] labels option what)
  | union members =>
    simp only [checkDefinition] at h
    split at h
    · cases h
    split at h
    · cases h
    · exact absurd h (spares_fields name [] members option what)
  | event fields =>
    refine absurd h (spares_bind (spares_fields name [] fields) (fun _ => ?_) option what)
    exact spares_map (by simp) _
  | command params returns =>
    refine absurd h (spares_bind (spares_fields name [] params.toFields) (fun _ => ?_) option what)
    refine spares_bind (spares_map (by simp) _) fun _ => ?_
    split
    · exact spares_checkType returns _ _
    · exact spares_ok

/-- A schema is refused for what an option is read as only if the search below the type of an option
of that name finds it. -/
theorem exists_of_verify_unreadable {option : String} {what : Unreadable}
    (h : schema.verify = .error (.unreadable option what)) :
    ∃ d ∈ schema.definitions, d.name = option ∧ ∃ payload implicit,
      d.body = .option (some payload) implicit ∧
        schema.firstUnreadable? [payload] [] = some what := by
  obtain h | ⟨_, -, h⟩ := bind_eq_error.mp h
  · exact absurd h (spares_checkNames [] schema.definitions option what)
  obtain h | ⟨_, -, h⟩ := bind_eq_error.mp h
  · exact absurd h (spares_checkGeneratedNames schema option what)
  obtain h | ⟨_, -, h⟩ := bind_eq_error.mp h
  · obtain ⟨d, hd, h⟩ := exists_error_of_forM h
    exact ⟨d, hd, checkDefinition_unreadable h⟩
  · exact absurd h (spares_map (by simp) _ option what)

/-! ### Options -/

/-- **What an option is read as can be read.** In an accepted schema everything that is met on the
way through the type of an option can be read from text, and where the schema was built from
entries its name leads where it should; the implicit key is one of the type's own. And whatever the
schema is, it is refused for what an option is read as only if a name is met on the way through the
type of that option that is not the name of a struct. -/
theorem payloads_legible (schema : Schema) :
    (schema.verify = .ok () → ∀ d ∈ schema.definitions, ∀ payload implicit,
      d.body = .option (some payload) implicit →
        (∀ part, schema.ReadsThrough payload part → schema.Legible part ∧
          ((∃ entries, build entries = .ok schema) → schema.Resolves part)) ∧
        ∀ key ∈ implicit, schema.HasOwnKey key payload) ∧
    ∀ option what, schema.verify = .error (.unreadable option what) →
      ∃ d ∈ schema.definitions, d.name = option ∧ ∃ payload implicit,
        d.body = .option (some payload) implicit ∧
        schema.ReadsThrough payload (.named what.name) ∧ ¬schema.Legible (.named what.name) ∧
        what.kind = (schema.lookup? what.name).map Definition.kind := by
  constructor
  · intro hv d hd payload implicit hbody
    have hinput : payload ∈ d.inputTypes := by
      rw [Definition.inputTypes, hbody]
      exact List.mem_singleton.mpr rfl
    have hwrites : schema.Writes payload := ⟨d, hd, payload, mem_types_of_input hinput, .self⟩
    constructor
    · intro part hreads
      obtain ⟨hpart, hchecks⟩ :=
        typeChecks_of_readsThrough hv hwrites ((accepted hv hd).inputs payload hinput) hreads
      have hexpressible := (firstUnreadable?_eq_none_iff payload).mp
        ((accepted hv hd).readable payload implicit hbody) part hreads
      refine ⟨legible_of_checked hchecks.checked hexpressible, fun hbuilt => ?_⟩
      obtain ⟨entries, hbuild⟩ := hbuilt
      exact resolves_of_typeChecks (build_classified hbuild) hv hpart hchecks
    · intro key hkey
      have hcheck := definition_ok hv hd
      rw [checkDefinition, hbody, hkey] at hcheck
      exact hasOwnKey_of_checkOption hcheck
  · intro option what h
    obtain ⟨d, hd, hname, payload, implicit, hbody, hfound⟩ := exists_of_verify_unreadable h
    obtain ⟨⟨_, htype, hreads⟩, hkind, hne⟩ := exists_of_firstUnreadable? hfound
    obtain rfl := List.mem_singleton.mp htype
    refine ⟨d, hd, hname, _, implicit, hbody, hreads, ?_, hkind⟩
    rintro ⟨e, hlookup, hstruct⟩
    rw [hlookup, Option.map_some, hstruct] at hkind
    exact hne hkind

/-- A struct that holds itself in a list, and an option that is read as it. -/
def menuEntries : List Entry.Parsed :=
  [⟨.map [("type", .string "Menu"),
      ("data", .map [("title", .string "str"), ("parts", .list [.string "Menu"])])], 1⟩,
    ⟨.map [("option", .string "menu"), ("data", .string "Menu"), ("implicit", .string "title")], 2⟩]

/-- The fields of the struct. -/
def menuFields : List Field :=
  [⟨"title", .scalar .str, false⟩, ⟨"parts", .array (.named "Menu"), false⟩]

/-- The schema of `menuEntries`. -/
def menu : Schema where
  definitions := [⟨"Menu", 1, .struct menuFields⟩,
    ⟨"menu", 2, .option (some (.named "Menu")) (some "title")⟩]

/-- An option that would be read as a list of handles. -/
def files : Schema where
  definitions := [⟨"File", 1, .handle (.scalar .int)⟩,
    ⟨"files", 2, .option (some (.array (.named "File"))) none⟩]

theorem build_menu : build menuEntries = .ok menu := rfl

theorem lookup?_menu : menu.lookup? "Menu" = some ⟨"Menu", 1, .struct menuFields⟩ := rfl

theorem verify_menu : menu.verify = .ok () := by
  have hsearch : menu.firstUnreadable? [.named "Menu"] [] = none := by
    simp [firstUnreadable?, readStep, lookup?_menu, menuFields, fieldTypes]
  refine verify_eq_ok.mpr ⟨rfl, rfl, ?_, by cbv⟩
  refine forM_eq_ok.mpr (List.forall_mem_cons.mpr ⟨rfl, List.forall_mem_singleton.mpr ?_⟩)
  show checkOption menu "menu" (some (.named "Menu")) (some "title") = .ok ()
  rw [checkOption, hsearch]
  rfl

theorem lookup?_files : files.lookup? "File" = some ⟨"File", 1, .handle (.scalar .int)⟩ := rfl

theorem verify_files : files.verify = .error (.unreadable "files" ⟨"File", some .handle⟩) := by
  have hsearch : files.firstUnreadable? [.array (.named "File")] [] =
      some ⟨"File", some .handle⟩ := by
    simp [firstUnreadable?, readStep, lookup?_files, Body.kind]
  have hoption : checkOption files "files" (some (.array (.named "File"))) none =
      .error (.unreadable "files" ⟨"File", some .handle⟩) := by
    rw [checkOption, hsearch]
    rfl
  -- Names pass, generated names pass, and so does the first definition.
  refine bind_eq_error.mpr (.inr ⟨(), rfl, bind_eq_error.mpr (.inr ⟨(), rfl, ?_⟩)⟩)
  refine bind_eq_error.mpr (.inl (bind_eq_error.mpr (.inr ⟨(), rfl, ?_⟩)))
  exact bind_eq_error.mpr (.inl hoption)

/-- The struct is met again below its list, and the handle below the list of the option. -/
theorem payloads_legible_menu :
    (menu.verify = .ok () ∧ menu.ReadsThrough (.named "Menu") (.named "Menu") ∧
      menu.Resolves (.named "Menu") ∧ menu.HasOwnKey "title" (.named "Menu")) ∧
    files.verify = .error (.unreadable "files" ⟨"File", some .handle⟩) ∧
      ¬files.Legible (.named "File") := by
  obtain ⟨hparts, hkey⟩ := (payloads_legible menu).1 verify_menu _ (.tail _ (.head _)) _ _ rfl
  have hlist : menu.ReadsInto (.named "Menu") (.array (.named "Menu")) :=
    .member lookup?_menu rfl (.tail _ (.head _))
  have hround : menu.ReadsThrough (.named "Menu") (.named "Menu") :=
    (Relation.ReflTransGen.single hlist).tail .item
  obtain ⟨-, -, -, -, -, -, -, hfiles, -⟩ := (payloads_legible files).2 _ _ verify_files
  exact ⟨⟨verify_menu, hround, (hparts _ hround).2 ⟨_, build_menu⟩, hkey _ rfl⟩,
    verify_files, hfiles⟩

end RpcSchema.Schema
