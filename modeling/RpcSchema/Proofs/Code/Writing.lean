import Mathlib.Data.List.Chain
import RpcSchema.Proofs.Code.Layout
import RpcSchema.Proofs.Text.Lines

/-!
# Code written step by step

Code can be laid out by a writer that keeps the lines it has written and the depth at which it
stands. A blank line looks at the last line written, wherever that came from, and a block moves the
depth for the steps in it and moves it back. So what a step writes seems to depend on all that was
written before. It depends on two things only, the depth and whether the last line has text, and
these are what the layout of a step is given: the writer writes just that layout.

From this follows what one relies on when steps are put together. A block leaves the depth as it
was. Steps inside blocks write what they write on their own after a line of text, only further in.
And if all texts are single lines, the text that comes out has no empty line at its start or end,
and nowhere two in a row.

## Main definitions

* `Writer`, `Writer.step`, `Writer.steps` — a writer, and what steps make of it
* `enclosed` — steps inside blocks, one in the other
* `Step.texts`, `IsSingleLine` — the texts of steps, and texts that are one line each
* `Spaced` — lines without two empty ones in a row, nor one at the start

## Main results

* `Writer.steps_eq` — a writer writes the layout of its steps and keeps its depth
* `linesOf_add` — steps at a greater depth
* `linesOf_enclosed` — steps inside blocks
* `Writer.Neat.steps` — steps keep lines spaced and whole
* `Writer.compositional` — blocks, enclosed steps and the final text
-/

namespace RpcSchema.Code

open Text (splitWhere splitWhere_append_cons splitWhere_eq_cons splitWhere_flatMap)

/-! ### Writers -/

/-- A writer: the lines written so far, and the depth of the next one. -/
structure Writer where
  lines : List String
  depth : Nat

namespace Writer

/-- A writer that has written nothing yet. -/
def empty : Writer := ⟨[], 0⟩

/-- Whether the last line written has text. -/
def endsInText (w : Writer) : Bool := w.lines.getLast?.any (· != "")

/-- Writes a line at the depth of the writer. -/
def line (w : Writer) (text : String) : Writer :=
  { w with lines := w.lines ++ [indented w.depth text] }

/-- Writes an empty line, unless the last one is empty or there is none. -/
def blank (w : Writer) : Writer :=
  if w.endsInText then { w with lines := w.lines ++ [""] } else w

/-- Goes one level deeper. -/
def indent (w : Writer) : Writer := { w with depth := w.depth + 1 }

/-- Comes one level back. -/
def dedent (w : Writer) : Writer := { w with depth := w.depth - 1 }

mutual

/-- Writes a step. The steps of a block are written one level deeper, and after them the writer
comes one level back. -/
def step (w : Writer) : Step → Writer
  | .line text => w.line text
  | .blank => w.blank
  | .block opener closer body => ((w.line opener).indent.steps body).dedent.line closer

/-- Writes several steps. -/
def steps (w : Writer) : List Step → Writer
  | [] => w
  | step :: rest => (w.step step).steps rest

end

/-- The text of what was written. -/
def finish (w : Writer) : String := textOf w.lines

/-! ### What steps write -/

theorem endsInText_line (w : Writer) (text : String) : (w.line text).endsInText = (text != "") := by
  rw [endsInText, line, List.getLast?_concat, Option.any_some, Bool.eq_iff_iff, bne_iff_ne,
    bne_iff_ne]
  refine ⟨fun h htext => h ?_, indented_ne_empty w.depth⟩
  rw [htext, indented, if_pos rfl]

/-- A step leaves a line with text whatever was there before, or never does. -/
theorem endsInText_step (w : Writer) (step : Step) :
    (w.step step).endsInText = step.leavesText := by
  cases step with
  | line text => exact w.endsInText_line text
  | blank =>
    rw [Writer.step, blank]
    split
    · rw [endsInText, List.getLast?_concat]
      rfl
    · rename_i htext
      exact Bool.eq_false_iff.mpr htext
  | block opener closer body => exact endsInText_line _ closer

mutual

/-- What a step writes is its layout, and the depth stays. -/
theorem step_eq (w : Writer) : ∀ step : Step,
    w.step step = ⟨w.lines ++ step.lines w.depth w.endsInText, w.depth⟩
  | .line text => by rw [step, line, Step.lines]
  | .blank => by
    rw [step, blank, Step.lines]
    split
    · rfl
    · rw [List.append_nil]
  | .block opener closer body => by
    have hbody := steps_eq (w.line opener).indent body
    have htext : (w.line opener).indent.endsInText = (opener != "") := w.endsInText_line opener
    rw [htext] at hbody
    rw [step, hbody, Step.lines]
    simp [line, indent, dedent]

/-- What steps write is their layout, and the depth stays. -/
theorem steps_eq (w : Writer) : ∀ steps : List Step,
    w.steps steps = ⟨w.lines ++ linesOf w.depth w.endsInText steps, w.depth⟩
  | [] => by rw [steps, linesOf, List.append_nil]
  | step :: rest => by
    have htext := w.endsInText_step step
    rw [steps, steps_eq (w.step step) rest, htext, step_eq w step, linesOf, List.append_assoc]

end

/-- Written from the start, steps give the text of their layout. -/
theorem finish_steps (steps : List Step) : (empty.steps steps).finish = layout steps := by
  rw [steps_eq]
  rfl

end Writer

/-! ### Steps at a greater depth -/

theorem indented_indented (a b : Nat) (text : String) :
    indented a (indented b text) = indented (a + b) text := by
  by_cases htext : text = ""
  · simp [indented, htext]
  · rw [indented, if_neg (indented_ne_empty b htext), indented, if_neg htext, indented,
      if_neg htext, ← String.append_assoc, ← String.ofList_append,
      List.replicate_append_replicate, Nat.mul_add]

mutual

/-- A step at a greater depth writes the same lines further in. -/
theorem Step.lines_add (a b : Nat) (text : Bool) : ∀ step : Step,
    step.lines (a + b) text = (step.lines b text).map (indented a)
  | .line t => by
    rw [Step.lines, Step.lines, List.map_singleton, indented_indented]
  | .blank => by
    rw [Step.lines, Step.lines]
    split <;> rfl
  | .block opener closer body => by
    have hbody := linesOf_add a (b + 1) (opener != "") body
    rw [Step.lines, Step.lines, Nat.add_assoc, hbody, List.map_append, List.map_cons,
      List.map_singleton, indented_indented, indented_indented]

/-- Steps at a greater depth write the same lines further in. -/
theorem linesOf_add (a b : Nat) (text : Bool) : ∀ steps : List Step,
    linesOf (a + b) text steps = (linesOf b text steps).map (indented a)
  | [] => rfl
  | step :: rest => by
    rw [linesOf, linesOf, Step.lines_add a b text step, linesOf_add a b step.leavesText rest,
      List.map_append]

end

/-! ### Steps inside blocks -/

/-- Steps inside blocks with the given opening and closing lines, the first block outside. -/
def enclosed : List (String × String) → List Step → List Step
  | [], steps => steps
  | (opener, closer) :: rest, steps => [.block opener closer (enclosed rest steps)]

/-- Texts on lines of their own, each one level deeper than the one before. -/
def descending (depth : Nat) (texts : List String) : List String :=
  texts.mapIdx fun level text => indented (depth + level) text

theorem descending_cons (depth : Nat) (text : String) (rest : List String) :
    descending depth (text :: rest) = indented depth text :: descending (depth + 1) rest := by
  have hlevel : (fun level text => indented (depth + (level + 1)) text) =
      fun level text => indented (depth + 1 + level) text := by
    funext level text
    rw [Nat.add_assoc, Nat.add_comm 1 level]
  rw [descending, descending, List.mapIdx_cons, hlevel]
  rfl

/-- Steps inside blocks write their own lines between those of the blocks. They come after a line
with text, which is the opening line of the innermost block if there is one. -/
theorem linesOf_enclosed {blocks : List (String × String)} (hopeners : ∀ b ∈ blocks, b.1 ≠ "")
    (depth : Nat) {text : Bool} (htext : blocks ≠ [] ∨ text) (steps : List Step) :
    linesOf depth text (enclosed blocks steps) =
      descending depth (blocks.map (·.1)) ++ linesOf (depth + blocks.length) true steps ++
        (descending depth (blocks.map (·.2))).reverse := by
  induction blocks generalizing depth text with
  | nil =>
    obtain rfl : text = true := htext.resolve_left (absurd rfl)
    simp [enclosed, descending]
  | cons block rest ih =>
    obtain ⟨hopener, hrest⟩ := List.forall_mem_cons.mp hopeners
    have hinner := ih hrest (depth + 1) (.inr (bne_iff_ne.mpr hopener))
    have hlength : depth + (rest.length + 1) = depth + 1 + rest.length := by omega
    rw [enclosed, linesOf_singleton, Step.lines, hinner, List.map_cons, List.map_cons,
      descending_cons, descending_cons, List.length_cons, hlength]
    simp

/-! ### Texts of steps -/

/-- A text that is one line: it is not empty, and no line ends in it. -/
structure IsSingleLine (text : String) : Prop where
  ne_empty : text ≠ ""
  newline_notMem : '\n' ∉ text.toList

instance (text : String) : Decidable (IsSingleLine text) :=
  decidable_of_iff (text ≠ "" ∧ '\n' ∉ text.toList)
    ⟨fun h => ⟨h.1, h.2⟩, fun h => ⟨h.ne_empty, h.newline_notMem⟩⟩

mutual

/-- The texts in a step. -/
def Step.texts : Step → List String
  | .line text => [text]
  | .blank => []
  | .block opener closer body => opener :: closer :: stepsTexts body

/-- The texts in several steps. -/
def stepsTexts : List Step → List String
  | [] => []
  | step :: rest => step.texts ++ stepsTexts rest

end

/-! ### Spaced lines -/

/-- Lines without two empty ones in a row, nor one at the start. -/
def Spaced (lines : List String) : Prop := ("" :: lines).IsChain fun a b => a ≠ "" ∨ b ≠ ""

theorem Spaced.concat {lines : List String} (h : Spaced lines) {line : String}
    (hline : line ≠ "" ∨ lines.getLast?.any (· != "")) : Spaced (lines ++ [line]) := by
  rw [Spaced, ← List.cons_append, List.isChain_append]
  refine ⟨h, List.isChain_singleton line, fun last hlast next hnext => ?_⟩
  obtain rfl : line = next := Option.some.inj hnext
  refine hline.symm.imp_left fun htext => ?_
  rw [List.getLast?_cons, Option.mem_some_iff] at hlast
  cases hlines : lines.getLast? with
  | none => simp [hlines] at htext
  | some other =>
    rw [hlines] at hlast htext
    obtain rfl : other = last := hlast
    exact bne_iff_ne.mp htext

namespace Writer

/-- A writer whose lines are spaced, and single lines but for the empty ones. -/
structure Neat (w : Writer) : Prop where
  spaced : Spaced w.lines
  newline_notMem : ∀ line ∈ w.lines, '\n' ∉ line.toList

theorem neat_empty : empty.Neat := ⟨List.isChain_singleton "", List.forall_mem_nil _⟩

namespace Neat

section

variable {w : Writer} (h : w.Neat)

include h

theorem line {text : String} (htext : IsSingleLine text) : (w.line text).Neat where
  spaced := h.spaced.concat (.inl (indented_ne_empty w.depth htext.ne_empty))
  newline_notMem := by
    refine List.forall_mem_append.mpr ⟨h.newline_notMem, List.forall_mem_singleton.mpr ?_⟩
    rw [indented, if_neg htext.ne_empty, String.toList_append, String.toList_ofList,
      List.mem_append, not_or]
    refine ⟨fun hmem => ?_, htext.newline_notMem⟩
    exact absurd (List.eq_of_mem_replicate hmem) (by decide)

theorem blank : w.blank.Neat := by
  rw [Writer.blank]
  split
  · rename_i htext
    refine ⟨h.spaced.concat (.inr htext), ?_⟩
    exact List.forall_mem_append.mpr ⟨h.newline_notMem, by simp⟩
  · exact h

theorem indent : w.indent.Neat := ⟨h.spaced, h.newline_notMem⟩

theorem dedent : w.dedent.Neat := ⟨h.spaced, h.newline_notMem⟩

end

mutual

theorem step {w : Writer} (h : w.Neat) : ∀ step : Step, (∀ text ∈ step.texts, IsSingleLine text) →
    (w.step step).Neat
  | .line text, htexts => by
    rw [Writer.step]
    exact h.line (htexts text (by simp [Step.texts]))
  | .blank, _ => by
    rw [Writer.step]
    exact h.blank
  | .block opener closer body, htexts => by
    rw [Step.texts, List.forall_mem_cons, List.forall_mem_cons] at htexts
    obtain ⟨hopener, hcloser, hbody⟩ := htexts
    rw [Writer.step]
    exact ((h.line hopener).indent.steps body hbody).dedent.line hcloser

/-- Steps keep the lines neat, if all their texts are single lines. -/
theorem steps {w : Writer} (h : w.Neat) : ∀ steps : List Step,
    (∀ text ∈ stepsTexts steps, IsSingleLine text) → (w.steps steps).Neat
  | [], _ => by
    rw [Writer.steps]
    exact h
  | step :: rest, htexts => by
    rw [stepsTexts, List.forall_mem_append] at htexts
    rw [Writer.steps]
    exact (h.step step htexts.1).steps rest htexts.2

end

end Neat

end Writer

/-! ### Tidy texts -/

/-- A text without an empty line at its start and without two empty lines in a row, which ends with
one newline. -/
structure IsTidy (text : String) : Prop where
  start : ¬ ['\n'] <+: text.toList
  gaps : ¬ ['\n', '\n', '\n'] <:+: text.toList
  newline : ['\n'] <:+ text.toList
  once : ¬ ['\n', '\n'] <:+ text.toList

/-- What is left of lines with text among them, once the empty ones at their end are dropped. -/
theorem exists_dropTrailing {lines : List String} {line : String} (hmem : line ∈ lines)
    (hline : line ≠ "") : ∃ kept last, last ≠ "" ∧ dropTrailing lines = kept ++ [last] := by
  have hkept : lines.rdropWhile (· == "") ≠ [] := by
    intro hnil
    exact hline (by simpa using List.rdropWhile_eq_nil_iff.mp hnil line hmem)
  refine ⟨_, _, ?_, (List.dropLast_append_getLast hkept).symm⟩
  simpa using List.rdropWhile_last_not (· == "") lines hkept

/-- The text of lines has each of them, with a newline behind it. -/
theorem toList_textOf {lines kept : List String} {last : String}
    (h : dropTrailing lines = kept ++ [last]) :
    (textOf lines).toList = ((kept ++ [last]).map String.toList).flatMap (· ++ ['\n']) := by
  have hnewline : "\n".toList = ['\n'] := rfl
  rw [textOf, h, String.toList_append, String.toList_intercalate, List.map_append,
    List.map_singleton, hnewline, intercalate_concat, List.flatMap_append, List.flatMap_singleton,
    List.append_assoc]

/-- The text of lines is split at its newlines, which gives the lines back. -/
theorem splitWhere_textOf {lines kept : List String} {last : String}
    (h : dropTrailing lines = kept ++ [last])
    (hnewline : ∀ line ∈ kept ++ [last], '\n' ∉ line.toList) :
    splitWhere (· == '\n') (textOf lines).toList =
      (kept ++ [last]).map String.toList ++ [[]] := by
  rw [toList_textOf h]
  exact splitWhere_flatMap (List.forall_mem_map.mpr hnewline)

/-- Between spaced lines there is no room for two empty stretches in a row. -/
theorem Spaced.ne_gap {lines : List String} (h : Spaced lines) (front : List (List Char))
    {rest : List (List Char)} (hrest : rest ≠ []) :
    [] :: (lines.map String.toList ++ [[]]) ≠ front ++ [] :: [] :: rest := by
  intro heq
  obtain ⟨init, last, rfl⟩ := (List.eq_nil_or_concat' rest).resolve_left hrest
  have hlines : ("" :: lines).map String.toList = front ++ [] :: [] :: init := by
    have hconcat : [] :: lines.map String.toList ++ [[]] = front ++ [] :: [] :: init ++ [last] := by
      simpa using heq
    exact (List.append_inj' hconcat rfl).1
  have hchain : (("" :: lines).map String.toList).IsChain fun a b => a ≠ [] ∨ b ≠ [] := by
    rw [List.isChain_map]
    exact h.imp fun a b => by simp
  rw [hlines, List.isChain_append, List.isChain_cons_cons] at hchain
  exact hchain.2.1.1.elim (absurd rfl) (absurd rfl)

/-- The text of spaced lines is tidy, if there is a line and no line ends inside of one. -/
theorem Spaced.isTidy_textOf {lines : List String} (h : Spaced lines)
    (hnewline : ∀ line ∈ lines, '\n' ∉ line.toList) (hne : lines ≠ []) :
    IsTidy (textOf lines) := by
  obtain ⟨kept, last, hlast, hkept⟩ :
      ∃ kept last, last ≠ "" ∧ dropTrailing lines = kept ++ [last] := by
    obtain ⟨first, rest, rfl⟩ := List.exists_cons_of_ne_nil hne
    have hfirst : first ≠ "" := (List.isChain_cons_cons.mp h).1.resolve_left (absurd rfl)
    exact exists_dropTrailing List.mem_cons_self hfirst
  have hkeeps : kept ++ [last] <+: lines := hkept ▸ List.rdropWhile_prefix (· == "") lines
  have hspaced : Spaced (kept ++ [last]) :=
    List.IsChain.prefix h (List.cons_prefix_cons.mpr ⟨rfl, hkeeps⟩)
  have hstretches := splitWhere_textOf hkept fun line hline => hnewline line (hkeeps.subset hline)
  have hcut (before after : List Char) :
      splitWhere (· == '\n') (before ++ '\n' :: after) =
        splitWhere (· == '\n') before ++ splitWhere (· == '\n') after :=
    splitWhere_append_cons before after rfl
  have hsome (text : List Char) : splitWhere (· == '\n') text ≠ [] := by
    rw [splitWhere_eq_cons]
    exact List.cons_ne_nil _ _
  constructor
  case start =>
    rintro ⟨rest, hrest⟩
    rw [← hrest] at hstretches
    exact hspaced.ne_gap [] (hsome rest) (congrArg ([] :: ·) hstretches.symm)
  case gaps =>
    rintro ⟨before, after, hinside⟩
    rw [← hinside, List.append_assoc] at hstretches
    have hgap := (hcut before ('\n' :: '\n' :: after)).symm.trans hstretches
    exact hspaced.ne_gap ([] :: splitWhere (· == '\n') before) (hsome after)
      (congrArg ([] :: ·) hgap.symm)
  case newline =>
    rw [toList_textOf hkept, List.map_append, List.flatMap_append, List.map_singleton,
      List.flatMap_singleton, ← List.append_assoc]
    exact List.suffix_append _ _
  case once =>
    rintro ⟨before, hend⟩
    rw [← hend, hcut before ['\n'], List.map_append] at hstretches
    have hlines : splitWhere (· == '\n') before ++ [[]] =
        kept.map String.toList ++ [last.toList] :=
      (List.append_inj' ((List.append_assoc _ [[]] [[]]).trans hstretches) rfl).1
    obtain ⟨-, hempty⟩ := List.append_inj' hlines rfl
    exact hlast (by simpa using hempty.symm)

/-! ### Writers and their texts -/

namespace Writer

/-- Code can be put together from its parts. Whatever is in a block and wherever a writer stands, it
has its old depth after the block. Steps inside blocks write the lines that they write at depth 0
after a line of text, each with text in it further in by four blanks for each block around it, and
these stand between the opening and the closing lines of the blocks. And the text of everything
that was written, which is that of its layout, is tidy, if all texts are single lines and there is a
line at all. -/
theorem compositional (steps : List Step) :
    (∀ (w : Writer) (opener closer : String),
      (w.step (.block opener closer steps)).depth = w.depth) ∧
    (∀ (w : Writer) (blocks : List (String × String)) (first : String),
      (∀ block ∈ blocks, block.1 ≠ "") → blocks ≠ [] ∨ w.endsInText → first ≠ "" →
        ∃ written, ((empty.line first).steps steps).lines = first :: written ∧
          w.steps (enclosed blocks steps) =
            ⟨w.lines ++ (descending w.depth (blocks.map (·.1)) ++
              written.map (indented (w.depth + blocks.length)) ++
                (descending w.depth (blocks.map (·.2))).reverse), w.depth⟩) ∧
    (empty.steps steps).finish = layout steps ∧
    ((∀ text ∈ stepsTexts steps, IsSingleLine text) → (empty.steps steps).lines ≠ [] →
      IsTidy (empty.steps steps).finish) := by
  refine ⟨fun w opener closer => ?_, fun w blocks first hopeners htext hfirst => ?_,
    finish_steps steps, fun htexts hlines => ?_⟩
  · rw [step_eq]
  · refine ⟨linesOf 0 true steps, ?_, ?_⟩
    · have hline : (empty.line first).lines = [first] := by simp [empty, line, indented]
      have hends : (empty.line first).endsInText = true :=
        (endsInText_line empty first).trans (bne_iff_ne.mpr hfirst)
      rw [steps_eq, hends, hline]
      rfl
    · have hadd := linesOf_add (w.depth + blocks.length) 0 true steps
      rw [steps_eq, linesOf_enclosed hopeners w.depth htext, ← hadd]
      rfl
  · obtain ⟨hspaced, hnewline⟩ := neat_empty.steps steps htexts
    exact hspaced.isTidy_textOf hnewline hlines

/-- A closure inside of an implementation, which starts with a blank line and ends with two. -/
theorem compositional_closure :
    let steps : List Step :=
      [.blank, .line "run();", .blank, .block "if done \x7b" "\x7d" [.line "stop();"],
        .blank, .blank]
    let blocks := [("impl Point \x7b", "\x7d"), ("let f = Box::new(move || \x7b", "\x7d);")]
    (empty.step (.block "loop \x7b" "\x7d" steps)).depth = 0 ∧
      (∃ written, ((empty.line "// header").steps steps).lines = "// header" :: written ∧
        empty.steps (enclosed blocks steps) =
          ⟨["impl Point \x7b", "    let f = Box::new(move || \x7b"] ++ written.map (indented 2) ++
            ["    \x7d);", "\x7d"], 0⟩) ∧
      IsTidy (empty.steps steps).finish := by
  intro steps blocks
  obtain ⟨hdepth, henclosed, -, htidy⟩ := compositional steps
  refine ⟨hdepth empty _ _, ?_, htidy (by decide) (by decide)⟩
  exact henclosed empty blocks "// header" (by decide) (.inl (by decide)) (by decide)

example :
    (empty.steps (enclosed [("impl Point \x7b", "\x7d")] [.blank, .line "run();", .blank])).finish =
      "impl Point \x7b\n\n    run();\n\n\x7d\n" := by
  decide

end Writer

end RpcSchema.Code
