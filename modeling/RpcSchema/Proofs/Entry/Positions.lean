import Mathlib.Data.List.DropRight
import RpcSchema.Proofs.Entry.Chunks
import RpcSchema.Proofs.Entry.Pieces

/-!
# Positions in a chunk are positions in the text

The tokenizer sees the text of one chunk and counts lines and bytes through it. A position that it
reports splits the chunk in two: the text it has passed, and the rest. The passed text alone gives
the position, one line for each end of line in it and one column for each byte after the last of
them (`advance_eq`). On the other side the line of the chunk with this number is what the passed
text ends with, followed by what the rest starts with (`mem_lines_chunk`), and the lines of a chunk
are known to be those of the schema text.

## Main definitions

* `line?` — a line of a text by its number
* `byteCount` — the length of some text in bytes
* `Chunk.Exact` — what the lines and positions of a chunk say about the schema text

## Main results

* `advance_eq` — the position after some text
* `exact_chunks` — every chunk is exact, and the chunks have each line that counts once, in order
-/

namespace RpcSchema.Entry

open RpcSchema.Text

/-! ### Lines by their numbers -/

/-- A line of a text, where the lines are numbered from one. -/
def line? (text : List Char) : Nat → Option (List Char)
  | 0 => none
  | index + 1 => (lines text)[index]?

theorem mem_numbered_lines {text : List Char} {line : Line} :
    line ∈ numbered 1 (lines text) ↔ line? text line.number = some line.text := by
  rw [mem_numbered]
  cases line.number with
  | zero => simp [line?]
  | succ index => simp [line?]

/-! ### Places -/

/-- The length of some text in bytes. -/
def byteCount (text : List Char) : Nat := (String.ofList text).utf8ByteSize

theorem byteCount_concat (text : List Char) (c : Char) :
    byteCount (text ++ [c]) = byteCount text + c.utf8Size := by
  rw [byteCount, String.ofList_append, String.utf8ByteSize_append, ← String.singleton_eq_ofList,
    String.utf8ByteSize_singleton, byteCount]

/-- The place after some text: one line further down for each end of line, and after the bytes that
follow the last of these. -/
theorem advance_eq (number : Nat) (passed : List Char) :
    (Position.mk number 1).advance passed =
      ⟨number + passed.count '\n', byteCount (passed.rtakeWhile (· != '\n')) + 1⟩ := by
  induction passed using List.reverseRecOn with
  | nil => rfl
  | append_singleton passed c ih =>
    rw [Position.advance_append, ih, List.count_append, List.rtakeWhile_concat]
    by_cases hc : c = '\n'
    · subst hc
      rfl
    · have hcount : [c].count '\n' = 0 := List.count_eq_zero.mpr (by simpa using Ne.symm hc)
      simp only [Position.advance, List.foldl_cons, List.foldl_nil, Position.step, if_neg hc]
      rw [hcount, if_pos (by simpa using hc), byteCount_concat]
      congr 1
      omega

/-- The line of a chunk that a place in it is on. -/
theorem mem_lines_chunk {chunk : Chunk} {passed rest : List Char}
    (h : chunk.text = passed ++ rest) :
    ⟨chunk.line + passed.count '\n',
      passed.rtakeWhile (· != '\n') ++ rest.takeWhile (· != '\n')⟩ ∈ chunk.lines := by
  have hdrop : (splitWhere (· == '\n') (passed ++ rest)).drop (passed.count '\n') =
      (passed.rtakeWhile (· != '\n') ++ rest.takeWhile (· != '\n')) :: _ :=
    drop_splitWhere passed rest
  refine mem_numbered.mpr ⟨Nat.le_add_right _ _, ?_⟩
  rw [h, Nat.add_sub_cancel_left, ← List.head?_drop, hdrop]
  rfl

/-! ### Chunks -/

/-- Some text stands at a place of the schema text: on that line, after as many bytes as come before
the column. -/
def StandsAt (text : List Char) (place : Position) (part : List Char) : Prop :=
  ∃ before after, line? text place.line = some (before ++ part ++ after) ∧
    place.column = byteCount before + 1

/-- What a chunk says about the schema text that it is from. -/
structure Chunk.Exact (text : List Char) (chunk : Chunk) : Prop where
  /-- Each line of the chunk is the line of the text, or empty in place of one that is skipped. -/
  lines : ∀ index line, (splitWhere (· == '\n') chunk.text)[index]? = some line →
    line? text (chunk.line + index) = some line ∨
      line = [] ∧ ∃ skipped, line? text (chunk.line + index) = some skipped ∧ isSkipped skipped
  /-- Each token stands at its position. -/
  tokens : ∀ ts, Entry.tokens ⟨chunk.line, 1⟩ chunk.text = .ok ts →
    ∀ token ∈ ts, StandsAt text token.position token.lexeme.text.toList
  /-- A failure is reported at the end of the longest row of strings, signs, comments and blanks
  that the chunk starts with: on the line of the text on which the rest of the chunk starts, after
  the bytes of this line that the row has covered. -/
  failure : ∀ place error, Entry.tokens ⟨chunk.line, 1⟩ chunk.text = .error (place, error) →
    ∃ pieces rest, chunk.text = pieces.flatten ++ rest ∧ Pieces rest pieces ∧ Stuck rest ∧
      rest.takeWhile (· != '\n') ≠ [] ∧
      place.line = chunk.line + pieces.flatten.count '\n' ∧
      line? text place.line = some
        (pieces.flatten.rtakeWhile (· != '\n') ++ rest.takeWhile (· != '\n')) ∧
      place.column = byteCount (pieces.flatten.rtakeWhile (· != '\n')) + 1

variable {text : List Char} {chunk : Chunk}

/-- The line of the schema text that a place in a chunk is on. -/
theorem line?_of_append (hchunk : chunk ∈ chunks text) {passed rest : List Char}
    (h : chunk.text = passed ++ rest) :
    let line := passed.rtakeWhile (· != '\n') ++ rest.takeWhile (· != '\n')
    line? text (chunk.line + passed.count '\n') = some line ∨
      line = [] ∧ ∃ skipped,
        line? text (chunk.line + passed.count '\n') = some skipped ∧ isSkipped skipped := by
  rcases Chunk.mem_lines hchunk (mem_lines_chunk h) with hline | ⟨hnil, skipped, hmem, hskipped⟩
  · exact .inl (mem_numbered_lines.mp hline)
  · exact .inr ⟨hnil, skipped, mem_numbered_lines.mp hmem, hskipped⟩

/-- A part of a chunk stands where the text before it leads to. -/
theorem standsAt_of_append (hchunk : chunk ∈ chunks text) {passed part rest : List Char}
    (h : chunk.text = passed ++ (part ++ rest)) (hpart : '\n' ∉ part) :
    StandsAt text ((Position.mk chunk.line 1).advance passed) part := by
  have hforall : ∀ c ∈ part, (c != '\n') = true := by
    intro c hc
    rw [bne, beq_newline_of_notMem hpart c hc]
    rfl
  have hline := line?_of_append hchunk h
  rw [List.takeWhile_append_of_pos hforall] at hline
  rw [advance_eq]
  rcases hline with hline | ⟨hnil, skipped, hline, -⟩
  · exact ⟨_, _, by rw [hline, List.append_assoc], rfl⟩
  · simp only [List.append_eq_nil_iff] at hnil
    obtain ⟨hbefore, rfl, -⟩ := hnil
    rw [hbefore]
    exact ⟨[], skipped, hline, rfl⟩

/-- A chunk is exact. -/
theorem exact_of_mem (hchunk : chunk ∈ chunks text) : chunk.Exact text where
  lines := by
    intro index line hget
    have hline : ⟨chunk.line + index, line⟩ ∈ chunk.lines := by
      refine mem_numbered.mpr ⟨Nat.le_add_right _ _, ?_⟩
      rwa [Nat.add_sub_cancel_left]
    rcases Chunk.mem_lines hchunk hline with hline | ⟨hnil, skipped, hmem, hskipped⟩
    · exact .inl (mem_numbered_lines.mp hline)
    · exact .inr ⟨hnil, skipped, mem_numbered_lines.mp hmem, hskipped⟩
  tokens := by
    intro ts hts token htoken
    obtain ⟨pieces, htext, hpieces, rfl⟩ := tokens_eq_ok_iff.mp hts
    rcases List.mem_append.mp htoken with htoken | htoken
    · obtain ⟨before, piece, after, rfl, hpiece, hlexeme, hposition⟩ :=
        exists_of_mem_placed hpieces htoken
      obtain ⟨hpieceText, hnewline, -⟩ := lexeme?_of_isPiece hpiece hlexeme
      rw [List.flatten_append, List.flatten_cons] at htext
      rw [hposition, hpieceText]
      exact standsAt_of_append hchunk htext hnewline
    · obtain rfl := List.mem_singleton.mp htoken
      exact standsAt_of_append hchunk (List.append_nil _).symm List.not_mem_nil
  failure := by
    intro place error hfailure
    obtain ⟨pieces, rest, htext, hpieces, hstuck, rfl, -⟩ := tokens_eq_error_iff.mp hfailure
    -- An end of line is a blank, so the rest does not start with one.
    have hne : rest.takeWhile (· != '\n') ≠ [] := by
      cases rest with
      | nil => exact absurd rfl hstuck.1
      | cons c rest =>
        have hc : c ≠ '\n' := by
          rintro rfl
          have hlength := hstuck.pieceLength
          simp [pieceLength, isBlank] at hlength
        rw [List.takeWhile_cons_of_pos (by simpa using hc)]
        exact List.cons_ne_nil _ _
    rw [advance_eq]
    refine ⟨pieces, rest, htext, hpieces, hstuck, hne, rfl, ?_, rfl⟩
    rcases line?_of_append hchunk htext with hline | ⟨hnil, -⟩
    · exact hline
    · exact absurd (List.append_eq_nil_iff.mp hnil).2 hne

/-- **The lines and positions of all chunks are those of the schema text.** The lines that count
are in the chunks once each and in order. -/
theorem exact_chunks (text : List Char) : (∀ chunk ∈ chunks text, chunk.Exact text) ∧
    (chunks text).flatMap (fun chunk => chunk.lines.filter (!·.text.isEmpty)) =
      (numbered 1 (lines text)).filter (!isSkipped ·.text) :=
  ⟨fun _ => exact_of_mem, flatMap_lines text⟩

/-- A text with a line skipped inside an entry, and a character of two bytes. -/
def remark : List Char := "# keys\n\x7b 'ä':\n\n  'ö' ?".toList

/-- The entry of `remark`. -/
def remarkChunk : Chunk := ⟨2, "\x7b 'ä':\n\n  'ö' ?".toList⟩

/-- The failure is at the seventh character of the fourth line, which is its eighth byte. -/
theorem exact_remark : remarkChunk ∈ chunks remark ∧
    tokens ⟨2, 1⟩ remarkChunk.text = .error (⟨4, 8⟩, .unexpectedText "?") ∧
    line? remark 4 = some "  'ö' ?".toList ∧ remarkChunk.Exact remark := by
  have hmem : remarkChunk ∈ chunks remark := by
    have hchunks : chunks remark = [remarkChunk] := rfl
    rw [hchunks]
    exact List.mem_singleton_self _
  exact ⟨hmem, by decide +kernel, rfl, (exact_chunks remark).1 _ hmem⟩

end RpcSchema.Entry
