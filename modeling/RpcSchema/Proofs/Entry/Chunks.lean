import Mathlib.Data.List.Chain
import RpcSchema.Entry.Chunk
import RpcSchema.Proofs.Text.Lines

/-!
# Chunks keep the lines of the text

A chunk is made of lines of the schema text that count, with an empty line for each line skipped in
between, and so its lines can be numbered on from its first. Two facts carry everything about
places. Between lines of one chunk all others are skipped, which is the chain `Follows`; and cutting
the text of a chunk at its ends of lines gives back the lines that it was put together from.

## Main definitions

* `numbered`, `Chunk.lines` — lines with their numbers, and those of a chunk
* `SkippedAt` — a line of a text that is skipped, by its number
* `Follows` — two lines with nothing but skipped lines in between

## Main results

* `blocks_flatten` — grouping loses and moves no line
* `Chunk.mem_lines` — a line of a chunk is a line of the text or stands for a skipped one
* `flatMap_lines` — the lines that count are in the chunks, once each and in order
-/

namespace RpcSchema.Entry

open RpcSchema.Text

/-! ### Numbered lines -/

/-- Lines numbered on from the given number. -/
def numbered (first : Nat) : List (List Char) → List Line
  | [] => []
  | text :: rest => ⟨first, text⟩ :: numbered (first + 1) rest

theorem numbered_append (first : Nat) (before after : List (List Char)) :
    numbered first (before ++ after) =
      numbered first before ++ numbered (first + before.length) after := by
  induction before generalizing first with
  | nil => rfl
  | cons text before ih =>
    rw [List.cons_append, numbered, ih, numbered, List.cons_append, List.length_cons,
      Nat.add_comm before.length, ← Nat.add_assoc]

/-- A line by its number. -/
theorem mem_numbered {first : Nat} {texts : List (List Char)} {line : Line} :
    line ∈ numbered first texts ↔
      first ≤ line.number ∧ texts[line.number - first]? = some line.text := by
  induction texts generalizing first with
  | nil => simp [numbered]
  | cons text texts ih =>
    obtain ⟨number, content⟩ := line
    rw [numbered, List.mem_cons, ih, Line.mk.injEq]
    rcases Nat.lt_trichotomy number first with hlt | rfl | hgt
    · simp only [Nat.not_le.mpr hlt, Nat.not_le.mpr (Nat.lt_succ_of_lt hlt), hlt.ne, false_and,
        or_self]
    · have hnot : ¬number + 1 ≤ number := by omega
      simp [hnot, eq_comm]
    · have hindex : number - first = number - (first + 1) + 1 := by omega
      have hle : first ≤ number ∧ first + 1 ≤ number := by omega
      simp only [hgt.ne', hle, hindex, List.getElem?_cons_succ, false_and, false_or, true_and]

/-- The lines that count are those that are not skipped. -/
theorem linesFrom_eq_filter (first : Nat) (texts : List (List Char)) :
    linesFrom first texts = (numbered first texts).filter (!isSkipped ·.text) := by
  induction texts generalizing first with
  | nil => rfl
  | cons text texts ih =>
    rw [linesFrom, numbered, List.filter_cons, ih]
    cases isSkipped text <;> rfl

/-! ### Neighbours -/

/-- Among the given lines, the one with the given number is skipped. -/
def SkippedAt (all : List Line) (number : Nat) : Prop :=
  ∃ text, ⟨number, text⟩ ∈ all ∧ isSkipped text

/-- A line comes after another one, and all lines in between are skipped. -/
structure Follows (all : List Line) (a b : Line) : Prop where
  lt : a.number < b.number
  skipped : ∀ n, a.number < n → n < b.number → SkippedAt all n

theorem isChain_linesFrom {all : List Line} {first : Nat} {texts : List (List Char)}
    (hall : numbered first texts ⊆ all) :
    (linesFrom first texts).IsChain (Follows all) ∧ ∀ line ∈ (linesFrom first texts).head?,
      first ≤ line.number ∧ ∀ n, first ≤ n → n < line.number → SkippedAt all n := by
  induction texts generalizing first with
  | nil => exact ⟨.nil, nofun⟩
  | cons text texts ih =>
    obtain ⟨htext, htexts⟩ := List.cons_subset.mp hall
    obtain ⟨hchain, hhead⟩ := ih htexts
    rw [linesFrom]
    split
    · rename_i hskipped
      refine ⟨hchain, fun line hline => ?_⟩
      obtain ⟨hle, hbetween⟩ := hhead line hline
      refine ⟨by omega, fun n hn hlt => ?_⟩
      rcases Nat.eq_or_lt_of_le hn with rfl | hn
      · exact ⟨text, htext, hskipped⟩
      · exact hbetween n hn hlt
    · refine ⟨List.isChain_cons.mpr ⟨fun line hline => ?_, hchain⟩, fun line hline => ?_⟩
      · obtain ⟨hle, hbetween⟩ := hhead line hline
        exact ⟨hle, fun n hn hlt => hbetween n hn hlt⟩
      · obtain rfl := Option.some.inj hline
        exact ⟨Nat.le_refl _, fun n hn hlt => absurd hn (Nat.not_le.mpr hlt)⟩

/-! ### Groups of lines -/

/-- The lines of a group. -/
def Block.lines (block : Block) : List Line := block.first :: block.more

/-- Grouping loses and moves no line. -/
theorem blocks_flatten (ls : List Line) : ((blocks ls).map Block.lines).flatten = ls := by
  induction ls with
  | nil => rfl
  | cons line rest ih =>
    rw [blocks]
    split
    · rename_i hnone
      rw [hnone] at ih
      rw [← ih]
      rfl
    · rename_i block others hblocks
      rw [hblocks] at ih
      split
      · rw [← ih]
        rfl
      · rw [← ih]
        rfl

theorem infix_of_mem_blocks {ls : List Line} {block : Block} (h : block ∈ blocks ls) :
    block.lines <:+: ls := by
  have hinfix := List.infix_of_mem_flatten (List.mem_map_of_mem (f := Block.lines) h)
  rwa [blocks_flatten] at hinfix

/-! ### The text of a group -/

/-- The lines from the one after the given number on, with an empty one wherever one is missing. -/
def filled (number : Nat) : List Line → List Line
  | [] => []
  | line :: rest =>
    numbered (number + 1) (List.replicate (line.number - number - 1) []) ++
      line :: filled line.number rest

theorem splitWhere_replicate {text : List Char} (htext : '\n' ∉ text) (k : Nat) (rest : List Char) :
    splitWhere (· == '\n') (text ++ (List.replicate (k + 1) '\n' ++ rest)) =
      text :: (List.replicate k [] ++ splitWhere (· == '\n') rest) := by
  have hsplit : ∀ {text : List Char}, '\n' ∉ text → ∀ rest,
      splitWhere (· == '\n') (text ++ '\n' :: rest) = text :: splitWhere (· == '\n') rest := by
    intro text htext rest
    exact splitWhere_append rfl (beq_newline_of_notMem htext)
  induction k generalizing text with
  | zero => exact hsplit htext rest
  | succ k ih =>
    rw [List.replicate_succ, List.cons_append, hsplit htext, List.replicate_succ, List.cons_append]
    exact congrArg _ (ih List.not_mem_nil)

/-- The lines of a text put together from lines. -/
theorem numbered_splitWhere {all : List Line} {line : Line} {more : List Line}
    (hchain : (line :: more).IsChain (Follows all)) (htext : ∀ l ∈ line :: more, '\n' ∉ l.text) :
    numbered line.number
        (splitWhere (· == '\n') (line.text ++ continuation line.number more)) =
      line :: filled line.number more := by
  induction more generalizing line with
  | nil =>
    have hline := beq_newline_of_notMem (htext line List.mem_cons_self)
    rw [continuation, List.append_nil, splitWhere_of_forall hline]
    rfl
  | cons next more ih =>
    obtain ⟨hnext, hrest⟩ := List.isChain_cons_cons.mp hchain
    obtain ⟨hline, hmore⟩ := List.forall_mem_cons.mp htext
    have hlt := hnext.lt
    have hgap : next.number - line.number = next.number - line.number - 1 + 1 := by omega
    have hnumber : line.number + 1 + (next.number - line.number - 1) = next.number := by omega
    rw [continuation, hgap, List.append_assoc, splitWhere_replicate hline, numbered,
      numbered_append, List.length_replicate, hnumber, ih hrest hmore]
    rfl

theorem mem_filled {all : List Line} {line : Line} {more : List Line}
    (hchain : (line :: more).IsChain (Follows all)) :
    ∀ l ∈ filled line.number more, l ∈ more ∨ l.text = [] ∧ SkippedAt all l.number := by
  induction more generalizing line with
  | nil => nofun
  | cons next more ih =>
    obtain ⟨hnext, hrest⟩ := List.isChain_cons_cons.mp hchain
    have hlt := hnext.lt
    intro l hl
    rcases List.mem_append.mp hl with hl | hl
    · right
      obtain ⟨hle, hget⟩ := mem_numbered.mp hl
      have hbound := (List.getElem?_eq_some_iff.mp hget).1
      rw [List.length_replicate] at hbound
      refine ⟨?_, hnext.skipped _ hle (by omega)⟩
      rw [List.getElem?_replicate_of_lt hbound] at hget
      exact (Option.some.inj hget).symm
    · rcases List.mem_cons.mp hl with rfl | hl
      · exact .inl List.mem_cons_self
      · rcases ih hrest l hl with hl | hl
        · exact .inl (List.mem_cons_of_mem _ hl)
        · exact .inr hl

theorem filter_filled {number : Nat} {more : List Line} (h : ∀ l ∈ more, l.text ≠ []) :
    (filled number more).filter (!·.text.isEmpty) = more := by
  induction more generalizing number with
  | nil => rfl
  | cons line more ih =>
    obtain ⟨hline, hmore⟩ := List.forall_mem_cons.mp h
    have hempty : ∀ n k, (numbered n (List.replicate k [])).filter (!·.text.isEmpty) = [] := by
      intro n k
      rw [List.filter_eq_nil_iff]
      intro l hl
      have htext := List.mem_of_getElem? (mem_numbered.mp hl).2
      rw [List.eq_of_mem_replicate htext]
      decide
    rw [filled, List.filter_append, hempty, List.nil_append, List.filter_cons_of_pos (by simpa),
      ih hmore]

/-! ### Chunks -/

/-- The lines of a chunk, numbered on from its first. -/
def Chunk.lines (chunk : Chunk) : List Line :=
  numbered chunk.line (splitWhere (· == '\n') chunk.text)

variable {text : List Char}

/-- The lines of a schema text that count. -/
theorem mem_linesFrom {line : Line} (h : line ∈ linesFrom 1 (Text.lines text)) :
    line ∈ numbered 1 (Text.lines text) ∧ '\n' ∉ line.text ∧ line.text ≠ [] := by
  rw [linesFrom_eq_filter] at h
  obtain ⟨hline, hskipped⟩ := List.mem_filter.mp h
  refine ⟨hline, newline_notMem_lines _ (List.mem_of_getElem? (mem_numbered.mp hline).2), ?_⟩
  intro hnil
  rw [hnil] at hskipped
  cases hskipped

section

variable {block : Block} (hblock : block ∈ blocks (linesFrom 1 (Text.lines text)))
include hblock

theorem mem_of_mem_block : ∀ line ∈ block.lines,
    line ∈ numbered 1 (Text.lines text) ∧ '\n' ∉ line.text ∧ line.text ≠ [] :=
  fun _ hline => mem_linesFrom ((infix_of_mem_blocks hblock).subset hline)

theorem isChain_block : block.lines.IsChain (Follows (numbered 1 (Text.lines text))) :=
  List.IsChain.infix (isChain_linesFrom (List.Subset.refl _)).1 (infix_of_mem_blocks hblock)

/-- The lines of the chunk of a group are those of the group, with the gaps filled. -/
theorem lines_chunk : block.chunk.lines = block.first :: filled block.first.number block.more :=
  numbered_splitWhere (isChain_block hblock) fun line hline =>
    (mem_of_mem_block hblock line hline).2.1

end

/-- A line of a chunk is the line of the text of that number, or is empty and stands for a line
that is skipped. -/
theorem Chunk.mem_lines {chunk : Chunk} (h : chunk ∈ chunks text) {line : Line}
    (hline : line ∈ chunk.lines) : line ∈ numbered 1 (Text.lines text) ∨
      line.text = [] ∧ SkippedAt (numbered 1 (Text.lines text)) line.number := by
  obtain ⟨block, hblock, rfl⟩ := List.mem_map.mp h
  have hkept := mem_of_mem_block hblock
  rw [lines_chunk hblock] at hline
  rcases List.mem_cons.mp hline with rfl | hline
  · exact .inl (hkept _ List.mem_cons_self).1
  · rcases mem_filled (isChain_block hblock) line hline with hline | hline
    · exact .inl (hkept _ (List.mem_cons_of_mem _ hline)).1
    · exact .inr hline

/-- The lines that count are the lines of the chunks that are not empty, once each and in order. -/
theorem flatMap_lines (text : List Char) :
    (chunks text).flatMap (fun chunk => chunk.lines.filter (!·.text.isEmpty)) =
      (numbered 1 (Text.lines text)).filter (!isSkipped ·.text) := by
  have hlines : ∀ block ∈ blocks (linesFrom 1 (Text.lines text)),
      block.chunk.lines.filter (!·.text.isEmpty) = block.lines := by
    intro block hblock
    obtain ⟨hfirst, hmore⟩ := List.forall_mem_cons.mp fun line hline =>
      (mem_of_mem_block hblock line hline).2.2
    rw [lines_chunk hblock, List.filter_cons_of_pos (by simpa), filter_filled hmore]
    rfl
  rw [chunks, List.flatMap_map, List.flatMap_congr hlines, List.flatMap_def, blocks_flatten,
    linesFrom_eq_filter]

end RpcSchema.Entry
