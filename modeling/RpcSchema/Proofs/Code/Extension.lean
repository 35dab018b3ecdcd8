import RpcSchema.Proofs.Code.Layout
import RpcSchema.Proofs.Schema.Extension

/-!
# Declared types of a longer schema

The declared types of a schema and their methods keep their text where entries are added at the
end: the new text follows the old. Each definition is written from its own data and from what the
names in it stand for, and both stay. The texts then follow each other because the empty line at
the end of the old one, which its text drops, comes back where something follows.

## Main results

* `definitionTypeItems_append`, `definitionImplItems_append` — the items of a definition stay
* `exists_textOf_append` — the text of closed lines starts the text of more lines
* `generate_append` — the text of the types and of their methods starts the one of more entries
-/

namespace RpcSchema.Code

open RpcSchema.Schema (lookup?_append lookup?_of_mem lookup?_of_writes Writes)

/-! ### One definition -/

section

variable {s t : Schema} {added : List Definition} (ht : t.definitions = s.definitions ++ added)

include ht

theorem declaredName_append {name : String} {d : Definition} (h : s.lookup? name = some d) :
    declaredName t name = declaredName s name := by
  rw [declaredName, declaredName, h, lookup?_append ht h]

theorem ownedName_append {name : String} {d : Definition} (h : s.lookup? name = some d) :
    ownedName t name = ownedName s name := by
  rw [ownedName, ownedName, h, lookup?_append ht h]

variable (hv : s.verify = .ok ())

include hv

/-- A type that is written in a schema is rendered as before. -/
theorem render_append (position : Position) {type : TypeRef} (h : s.Writes type) :
    render t position type = render s position type := by
  induction type using TypeRef.induct generalizing position with
  | scalar scalar => rfl
  | enum name => rfl
  | named name =>
    obtain ⟨d, hd⟩ := lookup?_of_writes hv h
    cases position with
    | param => rw [render, render, declaredName_append ht hd]
    | result => rw [render, render, ownedName_append ht hd]
  | array item ih =>
    have hitem := ih .result (h.of_occursIn (.item .self))
    cases position with
    | param => rw [render, render, hitem]
    | result => rw [render, render, hitem]
  | anonymous name fields _ => rfl

theorem structItem_append (doc : List String) (name : String) {fields : List Field}
    (h : ∀ field ∈ fields, s.Writes field.type) :
    structItem t doc name fields = structItem s doc name fields := by
  refine congrArg (Item.struct doc _ name "") (List.map_congr_left fun field hfield => ?_)
  rw [fieldType, fieldType, render_append ht hv .result (h field hfield)]

theorem unionItem_append (name : String) {members : List Field}
    (h : ∀ member ∈ members, s.Writes member.type) :
    unionItem t name members = unionItem s name members := by
  refine congrArg (Item.enum _ _ _) (List.map_congr_left fun member hmember => ?_)
  rw [render_append ht hv .result (h member hmember)]

theorem handleItem_append (name : String) {payload : TypeRef} (h : s.Writes payload) :
    handleItem t name payload = handleItem s name payload := by
  rw [handleItem, handleItem, render_append ht hv .result h]

/-- The types of a definition are declared as before. -/
theorem definitionTypeItems_append (config : Config) {d : Definition} (hd : d ∈ s.definitions) :
    definitionTypeItems (.of t config) d = definitionTypeItems (.of s config) d := by
  have hinner : ∀ a ∈ d.aggregates,
      structItem t [] a.name a.fields = structItem s [] a.name a.fields := by
    intro a ha
    obtain ⟨type, htype, hpart⟩ := Definition.mem_aggregates.mp ha
    refine structItem_append ht hv [] a.name fun field hfield => ?_
    exact ⟨d, hd, type, htype, .trans (.field hfield .self) hpart⟩
  have hinputs : ∀ type ∈ d.inputTypes, s.Writes type := fun type htype =>
    ⟨d, hd, type, List.mem_append_left _ htype, .self⟩
  refine congrArg₂ (· ++ ·) (List.map_congr_left hinner) ?_
  obtain ⟨name, line, body⟩ := d
  cases body with
  | struct fields =>
    have hfields := List.forall_mem_map.mp hinputs
    exact congrArg (fun item => [item]) (structItem_append ht hv [] _ hfields)
  | enum labels union => rfl
  | union members =>
    have hmembers := List.forall_mem_map.mp hinputs
    exact congrArg (fun item => [item]) (unionItem_append ht hv _ hmembers)
  | handle payload =>
    have hpayload := List.forall_mem_singleton.mp hinputs
    exact congrArg (fun item => [item]) (handleItem_append ht hv _ hpayload)
  | event fields =>
    have hfields := List.forall_mem_map.mp hinputs
    exact congrArg (fun item => [item, eventAliases config.runtime name])
      (structItem_append ht hv _ _ hfields)
  | command params returns => rfl
  | option type implicit => rfl

/-! ### Methods -/

variable (config : Config)

omit ht hv in
theorem releaseItems_congr (name : String) {type : TypeRef}
    (h : freeFunction? t type = freeFunction? s type) :
    releaseItems (.of t config) name type = releaseItems (.of s config) name type := by
  simp only [releaseItems, Context.of, h]

omit ht hv in
theorem structImplItems_congr (name : String) (fields : List Field) {type : TypeRef}
    (h : freeFunction? t type = freeFunction? s type) :
    structImplItems (.of t config) name fields type =
      structImplItems (.of s config) name fields type := by
  rw [structImplItems, structImplItems, releaseItems_congr config name h]

/-- A type is released by the same function. -/
theorem freeFunction?_append {d : Definition} (hd : d ∈ s.definitions) (htype : d.isType) :
    freeFunction? t (.named d.name) = freeFunction? s (.named d.name) := by
  rw [freeFunction?, freeFunction?, declaredName_append ht (lookup?_of_mem hv hd htype)]

theorem handleImplItems_append {name : String} {payload : TypeRef} (hwrites : s.Writes payload)
    (hfree : freeFunction? t (.named name) = freeFunction? s (.named name)) :
    handleImplItems (.of t config) name payload = handleImplItems (.of s config) name payload := by
  have hrender : render (Context.of t config).schema .result payload =
      render (Context.of s config).schema .result payload := render_append ht hv .result hwrites
  rw [handleImplItems, handleImplItems, hrender, releaseItems_congr config _ hfree]

/-- The types of a definition have the methods that they had. -/
theorem definitionImplItems_append {d : Definition} (hd : d ∈ s.definitions) :
    definitionImplItems (.of t config) d = definitionImplItems (.of s config) d := by
  have hinner : ∀ a : Aggregate,
      structImplItems (.of t config) a.name a.fields (.anonymous a.name a.fields) =
        structImplItems (.of s config) a.name a.fields (.anonymous a.name a.fields) :=
    fun a => structImplItems_congr config a.name a.fields rfl
  have hfree := freeFunction?_append ht hv hd
  have hinputs : ∀ type ∈ d.inputTypes, s.Writes type := fun type htype =>
    ⟨d, hd, type, List.mem_append_left _ htype, .self⟩
  obtain ⟨name, line, body⟩ := d
  cases body with
  | struct fields =>
    simp only [definitionImplItems, hinner, structImplItems_congr config _ fields (hfree rfl)]
  | enum labels union =>
    simp only [definitionImplItems, hinner]
    rfl
  | union members =>
    cases members with
    | nil => simp only [definitionImplItems, hinner]
    | cons first rest =>
      simp only [definitionImplItems, hinner, unionImplItems,
        releaseItems_congr config _ (hfree rfl)]
  | handle payload =>
    have hpayload := List.forall_mem_singleton.mp hinputs
    simp only [definitionImplItems, hinner,
      handleImplItems_append ht hv config hpayload (hfree rfl)]
  | event fields =>
    simp only [definitionImplItems, hinner, eventImplItems,
      structImplItems_congr config _ fields (hfree rfl)]
    rfl
  | command params returns => simp only [definitionImplItems, hinner]
  | option type implicit => simp only [definitionImplItems, hinner]

end

/-! ### All definitions -/

section

variable {s t : Schema} {added : List Definition} (ht : t.definitions = s.definitions ++ added)
  (config : Config)

include ht

theorem typeItems_append (hv : s.verify = .ok ()) : typeItems (.of t config) =
    typeItems (.of s config) ++ added.flatMap (definitionTypeItems (.of t config)) := by
  have hdefinitions : (Context.of t config).schema.definitions = s.definitions ++ added := ht
  rw [typeItems, typeItems, hdefinitions, List.flatMap_append,
    List.flatMap_congr fun d hd => definitionTypeItems_append ht hv config hd]
  rfl

theorem implItems_append (hsv : s.verify = .ok ()) (htv : t.verify = .ok ()) :
    ∃ items more, implItems (.of s config) = .ok items ∧
      implItems (.of t config) = .ok (items ++ more) := by
  have hunions : ∀ d ∈ t.definitions, ∀ members, d.body = .union members → members ≠ [] :=
    fun d hd => (Schema.accepted htv hd).members
  obtain ⟨items, hitems⟩ := exists_items (c := .of t config) hunions .typeImpls
  obtain ⟨groups, hgroups, hitems⟩ := bind_eq_ok.mp hitems
  have hsplit := hgroups
  have hdefinitions : (Context.of t config).schema.definitions = s.definitions ++ added := ht
  rw [hdefinitions, List.mapM_append] at hsplit
  obtain ⟨first, hfirst, hsplit⟩ := bind_eq_ok.mp hsplit
  obtain ⟨second, hsecond, hsplit⟩ := bind_eq_ok.mp hsplit
  obtain rfl := Except.ok.inj hsplit
  rw [mapM_congr fun d hd => definitionImplItems_append ht hsv config hd] at hfirst
  refine ⟨first.flatten, second.flatten, bind_eq_ok.mpr ⟨first, hfirst, rfl⟩, ?_⟩
  rw [← List.flatten_append]
  exact bind_eq_ok.mpr ⟨first ++ second, hgroups, rfl⟩

end

/-! ### Texts -/

theorem dropTrailing_append (a b : List String) : dropTrailing (a ++ b) =
    if dropTrailing b = [] then dropTrailing a else a ++ dropTrailing b := by
  simp only [dropTrailing, List.reverse_append, List.dropWhile_append, List.isEmpty_iff,
    List.reverse_eq_nil_iff]
  split
  · rfl
  · rw [List.reverse_append, List.reverse_reverse]

/-- The text of closed lines starts the text of more lines: where any text follows, the empty line
at their end shows. -/
theorem exists_textOf_append {a : List String} (ha : Closed a) (b : List String) :
    ∃ rest, textOf (a ++ b) = textOf a ++ rest := by
  obtain ⟨kept, last, hlast, rfl⟩ := ha
  by_cases hb : dropTrailing b = []
  · exact ⟨"", by rw [textOf, dropTrailing_append, if_pos hb, textOf, String.append_empty]⟩
  · have hlines : kept ++ [last, ""] ++ dropTrailing b =
        kept ++ [last] ++ "" :: dropTrailing b := by simp
    refine ⟨"\n" ++ "\n".intercalate (dropTrailing b) ++ "\n", ?_⟩
    rw [textOf, textOf, dropTrailing_append, if_neg hb, dropTrailing_closed hlast, hlines,
      String.intercalate_append_of_ne_nil (by simp) (by simp),
      String.intercalate_cons_of_ne_nil hb, String.empty_append]
    simp only [String.append_assoc]

theorem itemsSteps_append (items more : List Item) :
    itemsSteps (items ++ more) = itemsSteps items ++ itemsSteps more :=
  List.flatMap_append

/-- The text of a part with more items at its end starts as it did. -/
theorem partsText_append {part : Part} {c c' : Context} {items more : List Item}
    (h : part.items c = .ok items) (h' : part.items c' = .ok (items ++ more)) :
    ∃ text rest, partsText c [part] = .ok text ∧ partsText c' [part] = .ok (text ++ rest) := by
  have hsteps : part.steps c = .ok (part.header ++ itemsSteps items) :=
    bind_eq_ok.mpr ⟨items, h, rfl⟩
  have hsteps' : part.steps c' = .ok (part.header ++ itemsSteps items ++ itemsSteps more) := by
    rw [List.append_assoc, ← itemsSteps_append]
    exact bind_eq_ok.mpr ⟨items ++ more, h', rfl⟩
  have hsection := isSection_steps hsteps
  have hlines : linesOf 0 false (part.header ++ itemsSteps items ++ itemsSteps more) =
      linesOf 0 false (part.header ++ itemsSteps items) ++ linesOf 0 false (itemsSteps more) := by
    rw [linesOf_append, hsection.blank]
  obtain ⟨rest, hrest⟩ := exists_textOf_append hsection.closed (linesOf 0 false (itemsSteps more))
  refine ⟨layout (part.header ++ itemsSteps items), rest, ?_, ?_⟩
  · rw [partsText_singleton, hsteps]
    rfl
  · rw [partsText_singleton, hsteps', layout, ← hrest, ← hlines]
    rfl

/-- **Entries added at the end disturb nothing.** Where the schemas with and without them are
accepted, the definitions of the first entries stay as they are, and with them the declared types
and their methods: the new items follow the old ones, and so do their texts. -/
theorem generate_append {entries later : List Entry.Parsed} {s t : Schema}
    (hs : Schema.build entries = .ok s) (ht : Schema.build (entries ++ later) = .ok t)
    (hsv : s.verify = .ok ()) (htv : t.verify = .ok ()) (config : Config) :
    (∃ added, t.definitions = s.definitions ++ added) ∧
      (∀ d ∈ s.definitions,
        definitionTypeItems (.of t config) d = definitionTypeItems (.of s config) d ∧
          definitionImplItems (.of t config) d = definitionImplItems (.of s config) d) ∧
      ∀ part ∈ [Part.types, .typeImpls],
        (∃ items more, part.items (.of s config) = .ok items ∧
          part.items (.of t config) = .ok (items ++ more)) ∧
        ∃ text rest, generate s config (.part part) = .ok text ∧
          generate t config (.part part) = .ok (text ++ rest) := by
  obtain ⟨added, hadded⟩ := Schema.definitions_append hs ht hsv htv
  refine ⟨⟨added, hadded⟩, fun d hd => ⟨?_, ?_⟩, fun part hpart => ?_⟩
  · exact definitionTypeItems_append hadded hsv config hd
  · exact definitionImplItems_append hadded hsv config hd
  have hitems : ∃ items more, part.items (.of s config) = .ok items ∧
      part.items (.of t config) = .ok (items ++ more) := by
    simp only [List.mem_cons, List.not_mem_nil, or_false] at hpart
    rcases hpart with rfl | rfl
    · exact ⟨_, _, rfl, congrArg Except.ok (typeItems_append hadded config hsv)⟩
    · exact implItems_append hadded config hsv htv
  obtain ⟨items, more, hold, hnew⟩ := hitems
  exact ⟨⟨items, more, hold, hnew⟩, partsText_append hold hnew⟩

/-- Entries that may follow those of `Schema.leafEntries`: a union over their types, with an enum of
its own, and an event. -/
def shadeEntries : List Entry.Parsed :=
  [⟨.map [("union", .string "Shade"),
      ("data", .map [("plain", .string "Color"), ("leaf", .string "Leaf")])], 3⟩,
    ⟨.map [("event", .string "SHED"), ("data", .map [("kind", .string "ShadeKind")])], 4⟩]

/-- The schema of both. -/
def shadeSchema : Schema :=
  ⟨Schema.leafSchema.definitions ++
    [⟨"ShadeKind", 3, .enum ["plain", "leaf"] (some "Shade")⟩,
      ⟨"Shade", 3, .union [⟨"plain", .enum "Color", false⟩, ⟨"leaf", .named "Leaf", false⟩]⟩,
      ⟨"SHED", 4, .event [⟨"kind", .enum "ShadeKind", false⟩]⟩]⟩

theorem build_shade : Schema.build (Schema.leafEntries ++ shadeEntries) = .ok shadeSchema := rfl

theorem verify_shade : shadeSchema.verify = .ok () :=
  Schema.verify_eq_ok.mpr ⟨rfl, rfl, rfl, by cbv⟩

/-- The methods of a struct and an enum, before a union and an event that use them. -/
theorem generate_append_shade : Schema.build Schema.leafEntries = .ok Schema.leafSchema ∧
    Schema.build (Schema.leafEntries ++ shadeEntries) = .ok shadeSchema ∧
    Schema.leafSchema.verify = .ok () ∧ shadeSchema.verify = .ok () ∧
    Part.typeImpls ∈ [Part.types, .typeImpls] ∧
    ∃ text rest, generate Schema.leafSchema .default (.part .typeImpls) = .ok text ∧
      generate shadeSchema .default (.part .typeImpls) = .ok (text ++ rest) := by
  have hpart : Part.typeImpls ∈ [Part.types, .typeImpls] := by decide
  obtain ⟨-, -, hparts⟩ := generate_append Schema.build_leaf build_shade Schema.verify_leaf
    verify_shade .default
  exact ⟨Schema.build_leaf, build_shade, Schema.verify_leaf, verify_shade, hpart,
    (hparts .typeImpls hpart).2⟩

end RpcSchema.Code
