import RpcSchema.Code.Artifact
import RpcSchema.Proofs.Success

/-!
# Parts of the code put together

All parts in one text are the texts of the parts with an empty line between each two. The parts
share one layout, in which a blank line shows only after a line with text, and empty lines are
dropped at the very end only. So each part has to start and end in a way that does not depend on its
neighbours: it starts with a line of text and ends, after its last text, with just one empty line.

The end is the point. Every item of a part is followed by a blank line, so the part ends well if
none of its items ends with an empty line, or if it has no items at all.

## Main definitions

* `leavesText` — whether text precedes what follows some steps
* `Closed` — lines that end, after some text, with one empty line
* `IsSection` — steps that can stand between others
* `Item.IsWritten` — items that do not end with an empty line

## Main results

* `linesOf_append` — steps one after the other
* `textOf_flatten` — closed stretches of lines as one text
* `isSection_steps` — a part is a section
* `partsText_eq` — the text of parts from their own texts
* `generate_all` — all parts in one text
-/

namespace RpcSchema.Code

/-! ### Steps one after the other -/

/-- Whether a line with text precedes what follows some steps, given whether one precedes them. -/
def leavesText (text : Bool) (steps : List Step) : Bool :=
  steps.foldl (fun _ step => step.leavesText) text

theorem leavesText_append (text : Bool) (a b : List Step) :
    leavesText text (a ++ b) = leavesText (leavesText text a) b :=
  List.foldl_append

theorem linesOf_append (depth : Nat) (text : Bool) (a b : List Step) :
    linesOf depth text (a ++ b) = linesOf depth text a ++ linesOf depth (leavesText text a) b := by
  induction a generalizing text with
  | nil => rfl
  | cons step rest ih =>
    rw [List.cons_append, linesOf, linesOf, ih, List.append_assoc]
    rfl

theorem linesOf_singleton (depth : Nat) (text : Bool) (step : Step) :
    linesOf depth text [step] = step.lines depth text := by
  rw [linesOf, linesOf, List.append_nil]

theorem indented_ne_empty (depth : Nat) {text : String} (h : text ≠ "") :
    indented depth text ≠ "" := by
  rw [indented, if_neg h]
  simp [h]

/-- The last line of a step that leaves text. -/
theorem exists_last_line {step : Step} (h : step.leavesText) (depth : Nat) (text : Bool) :
    ∃ kept last, last ≠ "" ∧ step.lines depth text = kept ++ [last] := by
  cases step with
  | line t => exact ⟨[], _, indented_ne_empty depth (bne_iff_ne.mp h), by rw [Step.lines]; rfl⟩
  | blank => cases h
  | block opener closer body =>
    exact ⟨_, _, indented_ne_empty depth (bne_iff_ne.mp h), by rw [Step.lines]⟩

/-! ### Stretches of lines -/

/-- Lines that end, after a line with text, with one empty line. -/
def Closed (lines : List String) : Prop := ∃ kept last, last ≠ "" ∧ lines = kept ++ [last, ""]

theorem Closed.append {b : List String} (h : Closed b) (a : List String) : Closed (a ++ b) := by
  obtain ⟨kept, last, hlast, rfl⟩ := h
  exact ⟨a ++ kept, last, hlast, (List.append_assoc a kept _).symm⟩

/-- Of closed lines just the empty one at the end is dropped. -/
theorem dropTrailing_closed {kept : List String} {last : String} (hlast : last ≠ "") :
    dropTrailing (kept ++ [last, ""]) = kept ++ [last] := by
  simp [dropTrailing, hlast]

/-- Two closed stretches of lines have an empty line between their texts. -/
theorem textOf_append {a b : List String} (ha : Closed a) (hb : Closed b) :
    textOf (a ++ b) = textOf a ++ "\n" ++ textOf b := by
  obtain ⟨before, first, hfirst, rfl⟩ := ha
  obtain ⟨after, last, hlast, rfl⟩ := hb
  have hboth : before ++ [first, ""] ++ (after ++ [last, ""]) =
      before ++ [first, ""] ++ after ++ [last, ""] := by simp
  have hkept : before ++ [first, ""] ++ after ++ [last] =
      before ++ [first] ++ "" :: (after ++ [last]) := by simp
  rw [textOf, textOf, textOf, hboth, dropTrailing_closed hlast, dropTrailing_closed hfirst,
    dropTrailing_closed hlast, hkept, String.intercalate_append_of_ne_nil (by simp) (by simp),
    String.intercalate_cons_of_ne_nil (by simp), String.empty_append]
  simp only [String.append_assoc]

theorem Closed.flatten {stretches : List (List String)} (hne : stretches ≠ [])
    (h : ∀ lines ∈ stretches, Closed lines) : Closed stretches.flatten := by
  rcases List.eq_nil_or_concat' stretches with rfl | ⟨init, last, rfl⟩
  · exact absurd rfl hne
  · rw [List.flatten_append, List.flatten_singleton]
    exact (h last (by simp)).append _

/-- The text of closed stretches of lines. -/
theorem textOf_flatten {stretches : List (List String)} (hne : stretches ≠ [])
    (h : ∀ lines ∈ stretches, Closed lines) :
    textOf stretches.flatten = "\n".intercalate (stretches.map textOf) := by
  induction stretches with
  | nil => exact absurd rfl hne
  | cons first rest ih =>
    obtain ⟨hfirst, hrest⟩ := List.forall_mem_cons.mp h
    by_cases hmore : rest = []
    · simp [hmore]
    · rw [List.flatten_cons, textOf_append hfirst (.flatten hmore hrest), ih hmore hrest,
        List.map_cons, String.intercalate_cons_of_ne_nil (by simpa using hmore)]

/-! ### Items -/

/-- Steps that are none or end with text. -/
def EndsInText (steps : List Step) : Prop := ∀ step ∈ steps.getLast?, step.leavesText

theorem endsInText_concat (steps : List Step) {step : Step} (h : step.leavesText) :
    EndsInText (steps ++ [step]) := by
  rw [EndsInText, List.getLast?_concat]
  simpa using h

/-- Steps with text at their end, and a blank line after them, leave lines closed. -/
theorem Closed.append_steps {lines : List String} (h : Closed lines) {steps : List Step}
    (hsteps : EndsInText steps) : Closed (lines ++ linesOf 0 false (steps ++ [.blank])) := by
  rcases List.eq_nil_or_concat' steps with rfl | ⟨init, last, rfl⟩
  · have hnone : linesOf 0 false ([] ++ [.blank]) = [] := rfl
    rwa [hnone, List.append_nil]
  · have hlast : last.leavesText := hsteps last (by simp)
    obtain ⟨kept, line, hline, hlines⟩ :=
      exists_last_line hlast 0 (leavesText false init)
    have hleaves : leavesText false (init ++ [last]) = true := by
      rw [leavesText_append]
      exact hlast
    rw [linesOf_append, linesOf_append, linesOf_singleton, linesOf_singleton, hlines, hleaves]
    refine Closed.append ?_ lines
    exact ⟨linesOf 0 false init ++ kept, line, hline, by simp [Step.lines]⟩

/-- A constant or table whose last line is not empty, or any other item: these end with a brace or a
semicolon. -/
def Item.IsWritten : Item → Prop
  | .constant text => text ≠ ""
  | .table _ _ closer _ => closer ≠ ""
  | _ => True

theorem Item.IsWritten.endsInText {item : Item} (h : item.IsWritten) : EndsInText item.steps := by
  have hbraced (header : String) (body : List Step) : (Step.braced header body).leavesText := rfl
  cases item with
  | struct doc derives name generics fields => exact endsInText_concat _ (hbraced _ _)
  | enum doc derives name variants =>
    rw [Item.steps, List.append_cons]
    exact endsInText_concat _ (hbraced _ _)
  | aliases definitions =>
    intro step hstep
    obtain ⟨definition, -, rfl⟩ := List.mem_map.mp (List.mem_of_getLast? hstep)
    simp [Step.leavesText]
  | constant text => exact endsInText_concat [] (bne_iff_ne.mpr h)
  | table doc opener closer rows => exact endsInText_concat _ (bne_iff_ne.mpr h)
  | trait doc name bounds members => exact endsInText_concat _ (hbraced _ _)
  | implementation head members => exact endsInText_concat [] (hbraced _ _)
  | function f =>
    rw [Item.steps, Function.steps]
    split
    · exact endsInText_concat _ (hbraced _ _)
    · exact endsInText_concat _ (by simp [Step.leavesText])

variable {c : Context}

theorem written_releaseItems (name : String) (type : TypeRef) :
    ∀ item ∈ releaseItems c name type, item.IsWritten := by
  unfold releaseItems
  split <;> simp [Item.IsWritten]

theorem written_structImplItems (name : String) (fields : List Field) (type : TypeRef) :
    ∀ item ∈ structImplItems c name fields type, item.IsWritten :=
  List.forall_mem_cons.mpr ⟨trivial, written_releaseItems name type⟩

theorem written_unionImplItems (union : String) (first : Field) (members : List Field) :
    ∀ item ∈ unionImplItems c union first members, item.IsWritten := by
  refine List.forall_mem_append.mpr ⟨?_, written_releaseItems _ _⟩
  simp [Item.IsWritten]

theorem written_definitionImplItems {d : Definition} {items : List Item}
    (h : definitionImplItems c d = .ok items) : ∀ item ∈ items, item.IsWritten := by
  have hinner {own : List Item} (hown : ∀ item ∈ own, item.IsWritten) :
      ∀ item ∈ (d.aggregates.flatMap fun a =>
        structImplItems c a.name a.fields (.anonymous a.name a.fields)) ++ own, item.IsWritten :=
    List.forall_mem_append.mpr
      ⟨List.forall_mem_flatMap.mpr fun _ _ => written_structImplItems _ _ _, hown⟩
  obtain ⟨name, line, body⟩ := d
  cases body with
  | struct fields =>
    cases h
    exact hinner (written_structImplItems _ _ _)
  | enum labels union =>
    cases h
    exact hinner (by simp [enumImplItems, Item.IsWritten])
  | union members =>
    cases members with
    | nil => cases h
    | cons first rest =>
      cases h
      exact hinner (written_unionImplItems _ _ _)
  | handle payload =>
    cases h
    exact hinner (List.forall_mem_cons.mpr ⟨trivial, written_releaseItems _ _⟩)
  | event fields =>
    cases h
    exact hinner (List.forall_mem_cons.mpr ⟨trivial, written_structImplItems _ _ _⟩)
  | command params returns =>
    cases h
    exact hinner (List.forall_mem_nil _)
  | option type implicit =>
    cases h
    exact hinner (List.forall_mem_nil _)

theorem written_implItems {items : List Item} (h : implItems c = .ok items) :
    ∀ item ∈ items, item.IsWritten := by
  obtain ⟨groups, hgroups, h⟩ := bind_eq_ok.mp h
  cases h
  intro item hitem
  obtain ⟨group, hgroup, hitem⟩ := List.mem_flatten.mp hitem
  obtain ⟨d, -, hd⟩ := exists_item (mapM_eq_ok.mp hgroups) hgroup
  exact written_definitionImplItems hd item hitem

theorem written_typeItems : ∀ item ∈ typeItems c, item.IsWritten := by
  refine List.forall_mem_flatMap.mpr fun d _ => List.forall_mem_append.mpr ⟨?_, ?_⟩
  · exact List.forall_mem_map.mpr fun _ _ => trivial
  · split <;> simp [enumItem, structItem, unionItem, handleItem, eventAliases, Item.IsWritten]

theorem written_conversionItems (name : String) (write read : List Step) :
    ∀ item ∈ conversionItems c name write read, item.IsWritten := by
  simp [conversionItems, Item.IsWritten]

theorem written_objectWireItems (name : String) (fields : List Field) :
    ∀ item ∈ objectWireItems c name fields, item.IsWritten := by
  unfold objectWireItems
  split <;> exact written_conversionItems _ _ _

theorem written_ownWireItems (d : Definition) : ∀ item ∈ ownWireItems c d, item.IsWritten := by
  unfold ownWireItems
  split
  · exact written_conversionItems _ _ _
  · exact written_objectWireItems _ _
  · exact written_conversionItems _ _ _
  · exact written_conversionItems _ _ _
  · exact written_objectWireItems _ _
  · exact List.forall_mem_nil _
  · exact List.forall_mem_nil _

theorem written_wireItems : ∀ item ∈ wireItems c, item.IsWritten := by
  refine List.forall_mem_flatMap.mpr fun d _ => List.forall_mem_append.mpr ⟨?_, ?_⟩
  · exact List.forall_mem_flatMap.mpr fun a _ => written_objectWireItems _ _
  · split
    · exact written_ownWireItems d
    · exact List.forall_mem_nil _

theorem isWritten_structReadItem (name : String) (fields : List Field) :
    (structReadItem c name fields).IsWritten := by
  unfold structReadItem
  split <;> exact trivial

theorem written_ownReadItems (d : Definition) : ∀ item ∈ ownReadItems c d, item.IsWritten := by
  unfold ownReadItems
  split
  · exact List.forall_mem_singleton.mpr (isWritten_structReadItem _ _)
  · exact List.forall_mem_singleton.mpr trivial
  · exact List.forall_mem_nil _

theorem written_optionItems : ∀ item ∈ optionItems c, item.IsWritten := by
  refine List.forall_mem_append.mpr ⟨List.forall_mem_append.mpr ⟨?_, ?_⟩, ?_⟩
  · refine List.forall_mem_flatMap.mpr fun d _ => List.forall_mem_append.mpr ⟨?_, ?_⟩
    · exact List.forall_mem_map.mpr fun a _ => isWritten_structReadItem _ _
    · split
      · exact written_ownReadItems d
      · exact List.forall_mem_nil _
  · exact List.forall_mem_map.mpr fun _ _ => trivial
  · exact List.forall_mem_singleton.mpr trivial

theorem Part.written {part : Part} {items : List Item} (h : part.items c = .ok items) :
    ∀ item ∈ items, item.IsWritten := by
  cases part with
  | types => cases h; exact written_typeItems
  | typeImpls => exact written_implItems h
  | marshal => cases h; exact written_wireItems
  | serverTrait => cases h; exact List.forall_mem_singleton.mpr trivial
  | server =>
    cases h
    refine List.forall_mem_append.mpr ⟨List.forall_mem_map.mpr fun _ _ => trivial, ?_⟩
    simp [commandTable, Item.IsWritten]
  | client => cases h; simp [clientItems, Item.IsWritten]
  | events =>
    cases h
    refine List.forall_mem_append.mpr ⟨List.forall_mem_map.mpr fun _ _ => trivial, ?_⟩
    simp [Item.IsWritten]
  | optionTrait => cases h; exact List.forall_mem_singleton.mpr trivial
  | options => cases h; exact written_optionItems

/-! ### Parts as sections -/

/-- Steps that can stand between others: after text their lines end with one empty line. -/
structure IsSection (steps : List Step) : Prop where
  closed : Closed (linesOf 0 false steps)
  blank : leavesText false steps = false

theorem leavesText_concat_blank (text : Bool) (steps : List Step) :
    leavesText text (steps ++ [.blank]) = false :=
  leavesText_append text steps [.blank]

theorem leavesText_itemsSteps (items : List Item) :
    leavesText false (itemsSteps items) = false := by
  induction items with
  | nil => rfl
  | cons item rest ih =>
    rw [itemsSteps, List.flatMap_cons, leavesText_append, leavesText_concat_blank]
    exact ih

/-- Items after closed lines, each followed by a blank line, leave the lines closed. -/
theorem Closed.append_items {lines : List String} (h : Closed lines) {items : List Item}
    (hitems : ∀ item ∈ items, item.IsWritten) :
    Closed (lines ++ linesOf 0 false (itemsSteps items)) := by
  induction items generalizing lines with
  | nil =>
    have hnone : linesOf 0 false (itemsSteps []) = [] := rfl
    rwa [hnone, List.append_nil]
  | cons item rest ih =>
    obtain ⟨hitem, hrest⟩ := List.forall_mem_cons.mp hitems
    rw [itemsSteps, List.flatMap_cons, linesOf_append, leavesText_concat_blank,
      ← List.append_assoc]
    exact ih (h.append_steps hitem.endsInText) hrest

/-- The lines of a header. -/
theorem closed_header (part : Part) : Closed (linesOf 0 false part.header) := by
  refine ⟨[], _, indented_ne_empty 0 ?_, rfl⟩
  simp [ToString.toString]

/-- A part is a section, whatever its items. -/
theorem isSection_steps {part : Part} {steps : List Step} (h : part.steps c = .ok steps) :
    IsSection steps := by
  obtain ⟨items, hitems, h⟩ := bind_eq_ok.mp h
  cases h
  have hheader : leavesText false part.header = false := rfl
  constructor
  · rw [linesOf_append, hheader]
    exact (closed_header part).append_items (Part.written hitems)
  · rw [leavesText_append, hheader, leavesText_itemsSteps]

theorem linesOf_flatten {sections : List (List Step)} (h : ∀ steps ∈ sections, IsSection steps) :
    linesOf 0 false sections.flatten = (sections.map (linesOf 0 false)).flatten := by
  induction sections with
  | nil => rfl
  | cons first rest ih =>
    obtain ⟨hfirst, hrest⟩ := List.forall_mem_cons.mp h
    rw [List.flatten_cons, linesOf_append, hfirst.blank, ih hrest, List.map_cons, List.flatten_cons]

/-- The text of sections, from their own texts. -/
theorem layout_flatten {sections : List (List Step)} (hne : sections ≠ [])
    (h : ∀ steps ∈ sections, IsSection steps) :
    layout sections.flatten = "\n".intercalate (sections.map layout) := by
  have hclosed : ∀ lines ∈ sections.map (linesOf 0 false), Closed lines :=
    List.forall_mem_map.mpr fun steps hsteps => (h steps hsteps).closed
  rw [layout, linesOf_flatten h, textOf_flatten (by simpa using hne) hclosed, List.map_map]
  rfl

/-! ### Parts in one text -/

theorem partsText_singleton (part : Part) : partsText c [part] = (part.steps c).map layout := by
  rw [partsText, List.mapM_cons]
  cases part.steps c with
  | error fault => rfl
  | ok steps => exact congrArg (fun steps => Except.ok (layout steps)) (List.append_nil steps)

/-- The text of parts is made of the texts of each, with an empty line between each two. -/
theorem partsText_eq {parts : List Part} (hne : parts ≠ []) :
    partsText c parts = (parts.mapM fun part => partsText c [part]).map ("\n".intercalate ·) := by
  simp only [partsText_singleton, mapM_map]
  rw [partsText]
  cases h : parts.mapM (Part.steps c) with
  | error fault => rfl
  | ok sections =>
    have hsections := mapM_eq_ok.mp h
    have hsection : ∀ steps ∈ sections, IsSection steps := by
      intro steps hsteps
      obtain ⟨part, -, hpart⟩ := exists_item hsections hsteps
      exact isSection_steps hpart
    have hsome : sections ≠ [] := by
      rintro rfl
      exact hne (List.forall₂_nil_right_iff.mp hsections)
    exact congrArg Except.ok (layout_flatten hsome hsection)

/-- The code of all parts is the texts of the parts, each generated alone, in their order and joined
by a newline, after the one at the end of each. Where a part cannot be generated, neither can the
whole. -/
theorem generate_all (schema : Schema) (config : Config) :
    generate schema config .all =
        (Part.all.mapM fun part => generate schema config (.part part)).map
          ("\n".intercalate ·) ∧
      ∀ part, ∃ body : Except Fault String,
        generate schema config (.part part) = body.map (· ++ "\n") := by
  refine ⟨partsText_eq (List.cons_ne_nil _ _), fun part => ?_⟩
  refine ⟨(part.steps (.of schema config)).map fun steps =>
    "\n".intercalate (dropTrailing (linesOf 0 false steps)), ?_⟩
  rw [generate, partsText_singleton]
  cases part.steps (.of schema config) <;> rfl

end RpcSchema.Code
