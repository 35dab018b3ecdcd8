import Mathlib.Data.List.DropRight
import Mathlib.Tactic.Common
import RpcSchema.Text.Lines
import RpcSchema.Text.Split

/-!
# Texts joined and split

Parts are joined with a separator between them, and a text is split where its separators are. The
lines of a text are almost such parts: the end of a line may have a carriage return in front, and
the last line may lack its end. For lines that avoid both corners, joining and splitting undo each
other.

## Main results

* `intercalate_cons`, `intercalate_concat` — joined parts from the front and from the back
* `splitWhere_append_cons`, `splitWhere_append` — splitting at a separator, and at the first one
* `drop_splitWhere` — the stretch that a place in the text belongs to
* `lines_intercalate` — joined lines are the lines
* `newline_notMem_lines` — no line contains an end of line
-/

namespace RpcSchema

/-! ### Joining -/

theorem intercalate_cons {α : Type} (separator first : List α) (rest : List (List α)) :
    separator.intercalate (first :: rest) = first ++ rest.flatMap (separator ++ ·) := by
  induction rest generalizing first with
  | nil => simp
  | cons second rest ih =>
    rw [List.intercalate_cons_cons, ih, List.flatMap_cons, List.append_assoc, List.append_assoc]

theorem intercalate_concat {α : Type} (separator last : List α) (parts : List (List α)) :
    separator.intercalate (parts ++ [last]) = parts.flatMap (· ++ separator) ++ last := by
  induction parts with
  | nil => simp
  | cons part parts ih =>
    rw [List.cons_append, List.intercalate_cons_of_ne_nil (by simp), ih, List.flatMap_cons,
      ← List.append_assoc]

namespace Text

/-! ### Splitting -/

variable {separates : Char → Bool}

theorem splitWhere_of_forall {text : List Char} (h : ∀ c ∈ text, separates c = false) :
    splitWhere separates text = [text] := by
  induction text with
  | nil => rfl
  | cons c text ih =>
    obtain ⟨hc, htext⟩ := List.forall_mem_cons.mp h
    rw [splitWhere, hc, ih htext]
    rfl

theorem splitWhere_eq_cons (text : List Char) : splitWhere separates text =
    text.takeWhile (!separates ·) :: (splitWhere separates text).tail := by
  induction text with
  | nil => rfl
  | cons c text ih =>
    rw [splitWhere]
    split
    · rename_i hc
      simp [hc]
    · rename_i hc
      rw [ih, List.takeWhile_cons_of_pos (by simpa using hc)]
      rfl

/-- A text cut at a separator. -/
theorem splitWhere_append_cons (before after : List Char) {c : Char} (hc : separates c) :
    splitWhere separates (before ++ c :: after) =
      splitWhere separates before ++ splitWhere separates after := by
  induction before with
  | nil =>
    show splitWhere separates (c :: after) = [] :: splitWhere separates after
    rw [splitWhere, if_pos hc]
  | cons b before ih =>
    simp only [List.cons_append, splitWhere, ih]
    split
    · rfl
    · rw [splitWhere_eq_cons before]
      rfl

/-- The stretch before the first separator. -/
theorem splitWhere_append {text rest : List Char} {c : Char} (hc : separates c)
    (h : ∀ c ∈ text, separates c = false) :
    splitWhere separates (text ++ c :: rest) = text :: splitWhere separates rest := by
  rw [splitWhere_append_cons text rest hc, splitWhere_of_forall h]
  rfl

/-- A text cut anywhere: the stretch that is cut goes on after the cut. -/
theorem drop_splitWhere (before after : List Char) :
    (splitWhere separates (before ++ after)).drop (before.countP separates) =
      (before.rtakeWhile (!separates ·) ++ after.takeWhile (!separates ·)) ::
        (splitWhere separates after).tail := by
  -- A character moves over the cut at a time, so the induction is on the end of `before`.
  induction before using List.reverseRecOn generalizing after with
  | nil => simpa using splitWhere_eq_cons after
  | append_singleton before c ih =>
    rw [List.append_assoc, List.singleton_append, List.countP_append, List.countP_singleton,
      List.rtakeWhile_concat]
    by_cases hc : separates c
    · rw [if_pos hc, ← List.drop_drop, ih, splitWhere, if_pos hc]
      simpa [hc] using splitWhere_eq_cons after
    · rw [if_neg hc, Nat.add_zero, ih, splitWhere, if_neg hc, splitWhere_eq_cons after]
      simp [hc]

/-! ### Lines -/

theorem beq_newline_of_notMem {text : List Char} (h : '\n' ∉ text) :
    ∀ c ∈ text, (c == '\n') = false := by
  intro c hc
  have hne : c ≠ '\n' := fun heq => h (heq ▸ hc)
  simpa using hne

/-- Lines with a newline behind each are the stretches between the newlines, and an empty one is
left at the end. -/
theorem splitWhere_flatMap {parts : List (List Char)} (h : ∀ part ∈ parts, '\n' ∉ part) :
    splitWhere (· == '\n') (parts.flatMap (· ++ ['\n'])) = parts ++ [[]] := by
  induction parts with
  | nil => rfl
  | cons part parts ih =>
    obtain ⟨hpart, hparts⟩ := List.forall_mem_cons.mp h
    rw [List.flatMap_cons, List.append_assoc, List.singleton_append,
      splitWhere_append rfl (beq_newline_of_notMem hpart), ih hparts, List.cons_append]

theorem newline_notMem_lines {text : List Char} : ∀ line ∈ lines text, '\n' ∉ line := by
  fun_induction lines with
  | case1 => nofun
  | case2 rest ih => exact List.forall_mem_cons.mpr ⟨List.not_mem_nil, ih⟩
  | case3 rest ih => exact List.forall_mem_cons.mpr ⟨List.not_mem_nil, ih⟩
  | case4 c rest hnewline _ hrest ih =>
    refine List.forall_mem_singleton.mpr fun hmem => ?_
    exact hnewline (List.mem_singleton.mp hmem).symm
  | case5 c rest hnewline _ line more hrest ih =>
    rw [hrest] at ih
    obtain ⟨hline, hmore⟩ := List.forall_mem_cons.mp ih
    refine List.forall_mem_cons.mpr ⟨fun hmem => ?_, hmore⟩
    rcases List.mem_cons.mp hmem with hc | hmem
    · exact hnewline hc.symm
    · exact hline hmem

/-- A text that stands for itself as a line: it is not empty, holds no end of line and does not end
like the first half of one. -/
structure IsLine (line : List Char) : Prop where
  ne_nil : line ≠ []
  newline_notMem : '\n' ∉ line
  getLast?_ne : line.getLast? ≠ some '\r'

theorem lines_cons {c : Char} {rest line : List Char} {more : List (List Char)}
    (hnewline : c ≠ '\n') (hreturn : c = '\r' → rest.head? ≠ some '\n')
    (hrest : lines rest = line :: more) : lines (c :: rest) = (c :: line) :: more := by
  have hhalf : ∀ after, c = '\r' → rest = '\n' :: after → False := by
    rintro after hc rfl
    exact hreturn hc rfl
  rw [lines.eq_4 c rest hnewline hhalf, hrest]

/-- The first line of a text. -/
theorem lines_append {line : List Char} (hnewline : '\n' ∉ line)
    (hlast : line.getLast? ≠ some '\r') (rest : List Char) :
    lines (line ++ '\n' :: rest) = line :: lines rest := by
  induction line with
  | nil => rw [List.nil_append, lines]
  | cons c line ih =>
    rw [List.mem_cons, not_or] at hnewline
    have hline : line.getLast? ≠ some '\r' := by
      cases line with
      | nil => simp
      | cons b line => rwa [List.getLast?_cons_cons] at hlast
    refine lines_cons (Ne.symm hnewline.1) (fun hc hhead => ?_) (ih hnewline.2 hline)
    cases line with
    | nil => exact hlast (by rw [hc]; rfl)
    | cons b line =>
      obtain rfl := Option.some.inj hhead
      exact hnewline.2 List.mem_cons_self

/-- The first line of a text, where a carriage return belongs to its end. -/
theorem lines_append_return {line : List Char} (hnewline : '\n' ∉ line) (rest : List Char) :
    lines (line ++ '\r' :: '\n' :: rest) = line :: lines rest := by
  induction line with
  | nil => rw [List.nil_append, lines]
  | cons c line ih =>
    rw [List.mem_cons, not_or] at hnewline
    refine lines_cons (Ne.symm hnewline.1) (fun _ hhead => ?_) (ih hnewline.2)
    cases line with
    | nil => cases hhead
    | cons b line =>
      obtain rfl := Option.some.inj hhead
      exact hnewline.2 List.mem_cons_self

/-- A text without an end of line is its only line. -/
theorem lines_of_newline_notMem {line : List Char} (hne : line ≠ []) (hnewline : '\n' ∉ line) :
    lines line = [line] := by
  induction line with
  | nil => exact absurd rfl hne
  | cons c line ih =>
    rw [List.mem_cons, not_or] at hnewline
    cases line with
    | nil => rw [lines.eq_4 c [] (Ne.symm hnewline.1) nofun, lines]
    | cons b line =>
      refine lines_cons (Ne.symm hnewline.1) (fun _ hhead => ?_) (ih (by simp) hnewline.2)
      obtain rfl := Option.some.inj hhead
      exact hnewline.2 List.mem_cons_self

/-- Joined lines are the lines. -/
theorem lines_intercalate {parts : List (List Char)} (h : ∀ part ∈ parts, IsLine part) :
    lines (['\n'].intercalate parts) = parts := by
  induction parts with
  | nil => rw [List.intercalate_nil, lines]
  | cons part parts ih =>
    obtain ⟨hpart, hparts⟩ := List.forall_mem_cons.mp h
    cases parts with
    | nil =>
      rw [List.intercalate_singleton]
      exact lines_of_newline_notMem hpart.ne_nil hpart.newline_notMem
    | cons next parts =>
      rw [List.intercalate_cons_cons, List.append_assoc, List.singleton_append,
        lines_append hpart.newline_notMem hpart.getLast?_ne, ih hparts]

end Text

end RpcSchema
