import RpcSchema.Proofs.Entry.Chunks
import RpcSchema.Proofs.Entry.Grammar

/-!
# Layout does not matter

A line that is blank or starts with `#` may stand anywhere in a schema text, also inside an entry.
Everything about this follows from one equation: the lexemes of a text are those before an end of
line and those after it (`lexemes?_append_newline`), because no token spans two lines and an end of
line is a blank. So the lexemes of a chunk are those of its lines, one line after the other, and the
empty lines that stand for skipped ones add none.

What parsing needs to know of a line is its number, whether it continues an entry, and its lexemes:
its `Outline`. A skipped line has no outline and moves those below it, and a carriage return at the
end of a line is not seen in an outline, so it makes no difference which line is the last.

## Main definitions

* `lexemes?` — the lexemes of a text
* `Outline`, `Moved` — what parsing needs to know of a line, and lines that differ in place alone
* `Parsed.move`, `numberBelow` — where an entry is after a line has been put in

## Main results

* `lexemes?_append_newline` — the lexemes of a text, line by line
* `lexemes?_continuation` — the lexemes of a chunk are those of its lines
* `outline_linesFrom_intercalate` — the lines of a joined text
* `parse_insert` — parsing a text with one more line that is skipped
-/

namespace RpcSchema.Entry

open RpcSchema.Text

/-! ### The lexemes of a text -/

/-- The lexemes of a text before its end, if it has tokens. -/
def lexemes? (text : List Char) : Option (List Lexeme) :=
  (tokens ⟨1, 1⟩ text).toOption.map fun ts => (ts.map Token.lexeme).filter (· != .finish)

theorem filter_placed (start : Position) {rest : List Char} {pieces : List (List Char)}
    (h : Pieces rest pieces) :
    ((placed start pieces).map Token.lexeme).filter (· != .finish) = pieces.filterMap lexeme? := by
  rw [← map_lexeme_placed start, List.filter_eq_self]
  refine List.forall_mem_map.mpr fun token htoken => ?_
  simpa using ne_finish_of_mem_placed start h token htoken

/-- Where a text starts has no say in its lexemes. -/
theorem lexemes?_eq (start : Position) (text : List Char) : lexemes? text =
    (tokens start text).toOption.map fun ts => (ts.map Token.lexeme).filter (· != .finish) := by
  obtain ⟨pieces, rest, rfl, hpieces, hrest⟩ := exists_pieces text
  rw [lexemes?, tokens_append hpieces, tokens_append hpieces]
  rcases hrest with rfl | hstuck
  · rw [tokens_nil, tokens_nil]
    simp only [Except.map, Except.toOption, Option.map_some, List.map_append, List.filter_append,
      filter_placed _ hpieces]
    rfl
  · rw [tokens_stuck hstuck, tokens_stuck hstuck]
    rfl

/-- The lexemes of a row of pieces come before those of the rest. -/
theorem lexemes?_append_of_pieces {rest : List Char} {pieces : List (List Char)}
    (h : Pieces rest pieces) :
    lexemes? (pieces.flatten ++ rest) = (lexemes? rest).map (pieces.filterMap lexeme? ++ ·) := by
  rw [lexemes?, tokens_append h, lexemes?_eq ((Position.mk 1 1).advance pieces.flatten) rest]
  cases tokens ((Position.mk 1 1).advance pieces.flatten) rest with
  | error e => rfl
  | ok ts => simp [Except.map, Except.toOption, filter_placed _ h]

theorem lexemes?_nil : lexemes? [] = some [] := by
  rw [lexemes?, tokens_nil]
  rfl

theorem lexemes?_of_stuck {text : List Char} (h : Stuck text) : lexemes? text = none := by
  rw [lexemes?, tokens_stuck h]
  rfl

theorem lexemes?_append_of_isPiece {piece rest : List Char} (h : IsPiece piece rest) :
    lexemes? (piece ++ rest) = (lexemes? rest).map ((lexeme? piece).toList ++ ·) := by
  have hpieces : Pieces rest [piece] := .cons (by simpa using h) .nil
  have happend := lexemes?_append_of_pieces hpieces
  cases hlexeme : lexeme? piece <;> simpa [hlexeme] using happend

/-- A text has lexemes exactly if it is a row of pieces. -/
theorem lexemes?_eq_some_iff {text : List Char} {lexemes : List Lexeme} :
    lexemes? text = some lexemes ↔ ∃ pieces, text = pieces.flatten ∧ Pieces [] pieces ∧
      pieces.filterMap lexeme? = lexemes := by
  constructor
  · intro h
    obtain ⟨pieces, rest, rfl, hpieces, rfl | hstuck⟩ := exists_pieces text
    · rw [lexemes?_append_of_pieces hpieces, lexemes?_nil] at h
      exact ⟨pieces, List.append_nil _, hpieces, by simpa using h⟩
    · rw [lexemes?_append_of_pieces hpieces, lexemes?_of_stuck hstuck] at h
      cases h
  · rintro ⟨pieces, rfl, hpieces, rfl⟩
    have happend := lexemes?_append_of_pieces hpieces
    rw [List.append_nil, lexemes?_nil] at happend
    simpa using happend

/-! ### Blanks -/

theorem lexeme?_blanks {c : Char} {cs : List Char} (hc : isBlank c) : lexeme? (c :: cs) = none := by
  rw [lexeme?, if_neg (ne_quote_of_isBlank hc), punctuation?_of_isBlank hc]

/-- Blanks at the start of a text add no lexemes, whether or not more blanks follow them. -/
theorem lexemes?_dropWhile (text : List Char) :
    lexemes? (text.dropWhile isBlank) = lexemes? text := by
  conv_rhs => rw [← List.takeWhile_append_dropWhile (p := isBlank) (l := text)]
  have hrest : ∀ b ∈ (text.dropWhile isBlank).head?, isBlank b = false :=
    fun b => eq_false_of_head?_dropWhile
  have hblank : ∀ b ∈ text.takeWhile isBlank, isBlank b := fun b => List.mem_takeWhile_imp
  cases htake : text.takeWhile isBlank with
  | nil => rfl
  | cons c cs =>
    rw [htake] at hblank
    rw [lexemes?_append_of_isPiece (.blanks hblank hrest),
      lexeme?_blanks (hblank c List.mem_cons_self)]
    simp

theorem lexemes?_blanks_append {blanks : List Char} (h : ∀ b ∈ blanks, isBlank b)
    (text : List Char) : lexemes? (blanks ++ text) = lexemes? text := by
  rw [← lexemes?_dropWhile, List.dropWhile_append_of_pos h, lexemes?_dropWhile]

/-! ### Ends of lines -/

/-- A quote after some blanks and an end of line has the end of line before it. -/
theorem newline_mem_of_append_eq {blanks rest line after : List Char}
    (hblanks : ∀ b ∈ blanks, isBlank b) (hrest : ∀ c ∈ rest.head?, c = '\n')
    (h : blanks ++ rest = line ++ '\'' :: after) : '\n' ∈ line := by
  induction blanks generalizing line with
  | nil =>
    subst h
    cases line with
    | nil => exact absurd (hrest '\'' rfl) (by decide)
    | cons c line => exact hrest c rfl ▸ List.mem_cons_self
  | cons b blanks ih =>
    obtain ⟨hb, hblanks⟩ := List.forall_mem_cons.mp hblanks
    cases line with
    | nil => exact absurd (List.cons.inj h).1 (ne_quote_of_isBlank hb)
    | cons c line => exact List.mem_cons_of_mem _ (ih hblanks (List.cons.inj h).2)

/-- A quote that is not closed on its line stays so whatever the next lines are. -/
theorem contents?_append {text blanks rest : List Char} (h : contents? text = none)
    (hblanks : ∀ b ∈ blanks, isBlank b) (hrest : ∀ c ∈ rest.head?, c = '\n') :
    contents? (text ++ (blanks ++ rest)) = none := by
  by_contra hsome
  obtain ⟨inner, hfound⟩ := Option.ne_none_iff_exists'.mp hsome
  obtain ⟨hinner, after, happend⟩ := isContents_of_contents? hfound
  have hnewline : '\n' ∉ inner := fun hmem => (hinner _ hmem).2 rfl
  rcases List.append_eq_append_iff.mp happend with ⟨line, rfl, hline⟩ | ⟨line, rfl, hline⟩
  · have hmem := newline_mem_of_append_eq hblanks hrest hline
    exact hnewline (List.mem_append_right _ hmem)
  · cases line with
    | nil =>
      have hquote : blanks ++ rest = [] ++ '\'' :: after := hline.symm
      exact absurd (newline_mem_of_append_eq hblanks hrest hquote) List.not_mem_nil
    | cons c line =>
      obtain ⟨rfl, -⟩ := List.cons.inj hline
      rw [contents?_eq hinner] at h
      cases h

theorem Stuck.append {text blanks rest : List Char} (h : Stuck text)
    (hblanks : ∀ b ∈ blanks, isBlank b) (hrest : ∀ c ∈ rest.head?, c = '\n') :
    Stuck (text ++ (blanks ++ rest)) := by
  have hlength := h.pieceLength
  cases text with
  | nil => exact absurd rfl h.1
  | cons c text =>
    refine stuck_of_pieceLength (List.cons_ne_nil _ _) ?_
    rw [List.cons_append]
    rw [Entry.pieceLength] at hlength ⊢
    split at hlength
    · rename_i hc
      cases hcontents : contents? text with
      | none => rw [if_pos hc, contents?_append hcontents hblanks hrest]
      | some inner => simp [hcontents] at hlength
    · rename_i hc
      rw [if_neg hc]
      split at hlength
      · omega
      split at hlength
      · omega
      · simp [*]

section

variable {blanks rest : List Char} (hblanks : ∀ b ∈ blanks, isBlank b ∧ b ≠ '\n')
  (hrest : ∀ c ∈ rest.head?, c = '\n')
include hblanks hrest

/-- One more piece in front. What comes after a string or a sign has no say in it; a comment takes
the blanks up to the end of its line, and blanks add nothing wherever they end. -/
theorem lexemes?_append_step {piece after : List Char} (hpiece : IsPiece piece after)
    (ih : lexemes? (after ++ (blanks ++ rest)) =
      (lexemes? after).bind fun before => (lexemes? rest).map (before ++ ·)) :
    lexemes? (piece ++ after ++ (blanks ++ rest)) =
      (lexemes? (piece ++ after)).bind fun before => (lexemes? rest).map (before ++ ·) := by
  have hsame : IsPiece piece (after ++ (blanks ++ rest)) →
      lexemes? (piece ++ after ++ (blanks ++ rest)) =
        (lexemes? (piece ++ after)).bind fun before => (lexemes? rest).map (before ++ ·) := by
    intro hlonger
    rw [List.append_assoc, lexemes?_append_of_isPiece hlonger, ih,
      lexemes?_append_of_isPiece hpiece]
    cases lexemes? after <;> cases lexemes? rest <;> simp
  cases hpiece with
  | string hinner => exact hsame (.string hinner)
  | sign hsign => exact hsame (.sign hsign)
  | @comment body _ hbody hafter =>
    cases after with
    | cons c after => exact hsame (.comment hbody hafter)
    | nil =>
      have hlonger : '\n' ∉ body ++ blanks := by
        rw [List.mem_append, not_or]
        exact ⟨hbody, fun hmem => (hblanks _ hmem).2 rfl⟩
      have hcomment := lexemes?_append_of_isPiece (.comment hlonger hrest)
      have hshort : lexemes? ('#' :: body ++ []) = _ :=
        lexemes?_append_of_isPiece (.comment hbody nofun)
      simp_all [lexeme?, punctuation?, lexemes?_nil]
  | blanks hpiece =>
    rw [List.append_assoc, lexemes?_blanks_append hpiece, lexemes?_blanks_append hpiece, ih]

/-- The lexemes of a text are those before an end of line and those after it. Blanks at the end of a
line add none, even if they go on a comment. -/
theorem lexemes?_append (text : List Char) : lexemes? (text ++ (blanks ++ rest)) =
    (lexemes? text).bind fun before => (lexemes? rest).map (before ++ ·) := by
  have hblank : ∀ b ∈ blanks, isBlank b := fun b hb => (hblanks b hb).1
  obtain ⟨pieces, tail, rfl, hpieces, htail⟩ := exists_pieces text
  induction hpieces with
  | nil =>
    rcases htail with rfl | hstuck
    · simp [lexemes?_blanks_append hblank, lexemes?_nil]
    · simp [lexemes?_of_stuck hstuck, lexemes?_of_stuck (hstuck.append hblank hrest)]
  | cons hpiece _ ih =>
    rw [List.flatten_cons, List.append_assoc _ _ tail]
    exact lexemes?_append_step hblanks hrest hpiece ih

end

/-- **The lexemes of a text, line by line.** -/
theorem lexemes?_append_newline (text rest : List Char) : lexemes? (text ++ '\n' :: rest) =
    (lexemes? text).bind fun before => (lexemes? rest).map (before ++ ·) := by
  have hblank : ∀ b ∈ ['\n'], isBlank b := by simp [isBlank]
  have happend : lexemes? (text ++ ([] ++ '\n' :: rest)) = _ :=
    lexemes?_append (by simp) (by simp) text
  rwa [← List.singleton_append, lexemes?_blanks_append hblank] at happend

/-- A carriage return at the end of a line adds no lexemes. -/
theorem lexemes?_concat_return (text : List Char) : lexemes? (text ++ ['\r']) = lexemes? text := by
  have happend : lexemes? (text ++ (['\r'] ++ [])) = _ :=
    lexemes?_append (by simp [isBlank]) (by simp) text
  rw [List.append_nil, lexemes?_nil] at happend
  simpa using happend

/-! ### The lexemes of a chunk -/

/-- The lexemes of some lines, one line after the other. -/
def linesLexemes? : List Line → Option (List Lexeme)
  | [] => some []
  | line :: more =>
    (lexemes? line.text).bind fun before => (linesLexemes? more).map (before ++ ·)

/-- Ends of lines add no lexemes, however many there are. -/
theorem lexemes?_append_newlines (text rest : List Char) (k : Nat) :
    lexemes? (text ++ (List.replicate (k + 1) '\n' ++ rest)) =
      (lexemes? text).bind fun before => (lexemes? rest).map (before ++ ·) := by
  have hblank : ∀ b ∈ List.replicate k '\n', isBlank b := by
    intro b hb
    rw [List.eq_of_mem_replicate hb]
    rfl
  rw [List.replicate_succ, List.cons_append, lexemes?_append_newline,
    lexemes?_blanks_append hblank]

/-- The lexemes of lines that are put together to a chunk, each further down than the one before. -/
theorem lexemes?_continuation {line : Line} {more : List Line}
    (h : (line :: more).IsChain (·.number < ·.number)) :
    lexemes? (line.text ++ continuation line.number more) = linesLexemes? (line :: more) := by
  induction more generalizing line with
  | nil => simp [continuation, linesLexemes?]
  | cons next more ih =>
    obtain ⟨hnext, hmore⟩ := List.isChain_cons_cons.mp h
    have hgap : next.number - line.number = next.number - line.number - 1 + 1 := by omega
    rw [continuation, hgap, List.append_assoc, lexemes?_append_newlines, ih hmore]
    rfl

/-- What is read from a chunk hangs on its line and its lexemes alone. -/
theorem parse_chunk_iff_lexemes {chunk : Chunk} {parsed : Parsed} : chunk.parse = .ok parsed ↔
    parsed.line = chunk.line ∧ ∃ lexemes, lexemes? chunk.text = some lexemes ∧
      Derives lexemes parsed.value ∧ parsed.value.KeysDistinct := by
  rw [parse_chunk_eq_ok_iff]
  refine and_congr_right fun _ => ?_
  constructor
  · rintro ⟨pieces, htext, hpieces, hvalue⟩
    exact ⟨_, lexemes?_eq_some_iff.mpr ⟨pieces, htext, hpieces, rfl⟩, hvalue⟩
  · rintro ⟨lexemes, hlexemes, hvalue⟩
    obtain ⟨pieces, htext, hpieces, rfl⟩ := lexemes?_eq_some_iff.mp hlexemes
    exact ⟨pieces, htext, hpieces, hvalue⟩

/-! ### Outlines -/

/-- What parsing needs to know of a line. -/
structure Outline where
  number : Nat
  continues : Bool
  lexemes? : Option (List Lexeme)

/-- The outline of a line. -/
def Line.outline (line : Line) : Outline := ⟨line.number, line.continues, lexemes? line.text⟩

/-- The outline of a line that has moved to another place. -/
def Outline.move (f : Nat → Nat) (outline : Outline) : Outline :=
  { outline with number := f outline.number }

/-- An entry that has moved to another place. -/
def Parsed.move (f : Nat → Nat) (parsed : Parsed) : Parsed := { parsed with line := f parsed.line }

/-- Lines that have moved, and are otherwise alike. -/
def Moved (f : Nat → Nat) (a b : Line) : Prop := b.outline = a.outline.move f

variable {f : Nat → Nat}

section

variable {a b : Line} (h : Moved f a b)
include h

theorem Moved.number_eq : b.number = f a.number := congrArg Outline.number h

theorem Moved.continues_eq : b.continues = a.continues := congrArg Outline.continues h

theorem Moved.lexemes?_eq : lexemes? b.text = lexemes? a.text := congrArg Outline.lexemes? h

end

/-- Grouping goes by which lines continue an entry. -/
theorem forall₂_blocks {ls ls' : List Line} (h : List.Forall₂ (Moved f) ls ls') :
    List.Forall₂ (fun a b => List.Forall₂ (Moved f) a.lines b.lines) (blocks ls) (blocks ls') := by
  induction h with
  | nil => exact .nil
  | @cons a b rest rest' hab _ ih =>
    rw [blocks, blocks]
    generalize blocks rest = groups at ih
    generalize blocks rest' = groups' at ih
    cases ih with
    | nil => exact .cons (.cons hab .nil) .nil
    | @cons block block' others others' hblock hothers =>
      obtain ⟨first, more⟩ := block
      obtain ⟨first', more'⟩ := block'
      cases hblock with
      | cons hfirst hmore =>
        simp only [hfirst.continues_eq]
        split
        · exact .cons (.cons hab (.cons hfirst hmore)) hothers
        · exact .cons (.cons hab .nil) (.cons (.cons hfirst hmore) hothers)

theorem linesLexemes?_eq {ls ls' : List Line} (h : List.Forall₂ (Moved f) ls ls') :
    linesLexemes? ls' = linesLexemes? ls := by
  induction h with
  | nil => rfl
  | cons hab _ ih => rw [linesLexemes?, linesLexemes?, hab.lexemes?_eq, ih]

/-- A chunk of moved lines is read as the chunk of the lines is, in its own place. -/
theorem parse_chunk_of_moved {a b : Block} (h : List.Forall₂ (Moved f) a.lines b.lines)
    (ha : a.lines.IsChain (·.number < ·.number)) (hb : b.lines.IsChain (·.number < ·.number))
    {moved : Parsed} :
    b.chunk.parse = .ok moved ↔ ∃ parsed, a.chunk.parse = .ok parsed ∧ parsed.move f = moved := by
  have hfirst : Moved f a.first b.first := by
    cases h with
    | cons hfirst _ => exact hfirst
  have hlexemes : lexemes? b.chunk.text = lexemes? a.chunk.text :=
    (lexemes?_continuation hb).trans ((linesLexemes?_eq h).trans (lexemes?_continuation ha).symm)
  have hline : b.chunk.line = f a.chunk.line := hfirst.number_eq
  simp only [parse_chunk_iff_lexemes, hlexemes, hline]
  constructor
  · rintro ⟨hmoved, hvalue⟩
    exact ⟨⟨moved.value, a.chunk.line⟩, ⟨rfl, hvalue⟩, by rw [Parsed.move, ← hmoved]⟩
  · rintro ⟨parsed, ⟨hparsed, hvalue⟩, rfl⟩
    exact ⟨congrArg f hparsed, hvalue⟩

/-- A list of items with a step for each goes as another one if it does so at every item. -/
theorem mapM_of_forall₂ {ε α β : Type} {g : α → Except ε β} {move : β → β} {as bs : List α}
    (h : List.Forall₂ (fun a b => ∀ moved, g b = .ok moved ↔
      ∃ result, g a = .ok result ∧ move result = moved) as bs) {moved : List β} :
    bs.mapM g = .ok moved ↔ ∃ results, as.mapM g = .ok results ∧ results.map move = moved := by
  simp only [mapM_eq_ok]
  induction h generalizing moved with
  | nil => simp [eq_comm]
  | cons hab _ ih =>
    simp only [List.forall₂_cons_left_iff, hab, ih]
    constructor
    · rintro ⟨_, _, ⟨result, hresult, rfl⟩, ⟨results, hresults, rfl⟩, rfl⟩
      exact ⟨_, ⟨result, results, hresult, hresults, rfl⟩, rfl⟩
    · rintro ⟨_, ⟨result, results, hresult, hresults, rfl⟩, rfl⟩
      exact ⟨_, _, ⟨result, hresult, rfl⟩, ⟨results, hresults, rfl⟩, rfl⟩

/-- The lines of a group follow one another in the text. -/
theorem isChain_lines {ls : List Line} (h : ls.IsChain (·.number < ·.number)) :
    ∀ block ∈ blocks ls, block.lines.IsChain (·.number < ·.number) :=
  fun _ hblock => h.infix (infix_of_mem_blocks hblock)

theorem forall₂_moved {ls ls' : List Line}
    (h : ls'.map Line.outline = (ls.map Line.outline).map (Outline.move f)) :
    List.Forall₂ (Moved f) ls ls' := by
  rw [List.map_map, ← List.forall₂_eq_eq_eq, List.forall₂_map_left_iff,
    List.forall₂_map_right_iff] at h
  exact h.flip

/-- Moved lines are read as the lines are, each entry in its own place. -/
theorem mapM_parse_of_moved {ls ls' : List Line} (h : List.Forall₂ (Moved f) ls ls')
    (hls : ls.IsChain (·.number < ·.number)) (hls' : ls'.IsChain (·.number < ·.number))
    {moved : List Parsed} : ((blocks ls').map Block.chunk).mapM Chunk.parse = .ok moved ↔
      ∃ entries, ((blocks ls).map Block.chunk).mapM Chunk.parse = .ok entries ∧
        entries.map (Parsed.move f) = moved := by
  have hblocks := (List.forall₂_and_left _ _).mpr ⟨isChain_lines hls, forall₂_blocks h⟩
  have hblocks' := (List.forall₂_and_left _ _).mpr ⟨isChain_lines hls', hblocks.flip⟩
  refine mapM_of_forall₂ (List.forall₂_map_left_iff.mpr (List.forall₂_map_right_iff.mpr ?_))
  exact hblocks'.flip.imp fun a b ⟨hb, ha, hab⟩ _ => parse_chunk_of_moved hab ha hb

/-! ### Joined lines -/

theorem isSkipped_concat_return (text : List Char) :
    isSkipped (text ++ ['\r']) = isSkipped text := by
  cases text with
  | nil => rfl
  | cons c text => simp [isSkipped, isBlank]

theorem outline_concat_return {number : Nat} {text : List Char} (h : isSkipped text = false) :
    (Line.mk number (text ++ ['\r'])).outline = (Line.mk number text).outline := by
  cases text with
  | nil => cases h
  | cons c text =>
    rw [Line.outline, Line.outline, lexemes?_concat_return]
    rfl

/-- A line with a carriage return at its end, and what follows it. -/
theorem outline_linesFrom_cons {first : Nat} {text : List Char} {a b : List (List Char)}
    (h : (linesFrom (first + 1) a).map Line.outline = (linesFrom (first + 1) b).map Line.outline) :
    (linesFrom first (text :: a)).map Line.outline =
      (linesFrom first ((text ++ ['\r']) :: b)).map Line.outline := by
  rw [linesFrom, linesFrom, isSkipped_concat_return]
  split
  · exact h
  · rename_i hskipped
    rw [List.map_cons, List.map_cons, h, outline_concat_return (by simpa using hskipped)]

/-- The lines of a joined text are the joined lines, but for a carriage return at the end of a line
and an empty line at the end. Neither counts. -/
theorem outline_linesFrom_intercalate {parts : List (List Char)} (h : ∀ part ∈ parts, '\n' ∉ part)
    (first : Nat) : (linesFrom first (Text.lines (['\n'].intercalate parts))).map Line.outline =
      (linesFrom first parts).map Line.outline := by
  induction parts generalizing first with
  | nil => rw [List.intercalate_nil, Text.lines]
  | cons part parts ih =>
    obtain ⟨hpart, hparts⟩ := List.forall_mem_cons.mp h
    cases parts with
    | nil =>
      rw [List.intercalate_singleton]
      by_cases hne : part = []
      · subst hne
        rw [Text.lines]
        rfl
      · rw [lines_of_newline_notMem hne hpart]
    | cons next parts =>
      rw [List.intercalate_cons_cons, List.append_assoc, List.singleton_append]
      by_cases hreturn : part.getLast? = some '\r'
      · obtain ⟨text, rfl⟩ := List.getLast?_eq_some_iff.mp hreturn
        have htext : '\n' ∉ text := fun hmem => hpart (List.mem_append_left _ hmem)
        rw [List.append_assoc, List.singleton_append, lines_append_return htext]
        exact outline_linesFrom_cons (ih hparts (first + 1))
      · rw [lines_append hpart hreturn, linesFrom, linesFrom]
        split
        · exact ih hparts (first + 1)
        · rw [List.map_cons, List.map_cons, ih hparts (first + 1)]

/-! ### One more line -/

/-- The number of a line after a line has been put in at a place. -/
def numberBelow (place number : Nat) : Nat := if number < place then number else number + 1

theorem outline_linesFrom_succ {place first : Nat} (h : place ≤ first)
    (texts : List (List Char)) : (linesFrom (first + 1) texts).map Line.outline =
      ((linesFrom first texts).map Line.outline).map (Outline.move (numberBelow place)) := by
  induction texts generalizing first with
  | nil => rfl
  | cons text texts ih =>
    have hrest := ih (Nat.le_succ_of_le h)
    rw [linesFrom, linesFrom]
    split
    · exact hrest
    · rw [List.map_cons, List.map_cons, List.map_cons, hrest]
      simp [Line.outline, Outline.move, numberBelow, Nat.not_lt.mpr h, Line.continues]

/-- A skipped line moves those that come after it, and does nothing else. -/
theorem outline_linesFrom_insert {text : List Char} (htext : isSkipped text)
    (before after : List (List Char)) (first : Nat) :
    (linesFrom first (before ++ text :: after)).map Line.outline =
      ((linesFrom first (before ++ after)).map Line.outline).map
        (Outline.move (numberBelow (first + before.length))) := by
  induction before generalizing first with
  | nil =>
    rw [List.nil_append, List.nil_append, linesFrom, if_pos htext]
    exact outline_linesFrom_succ (Nat.le_refl _) after
  | cons line before ih =>
    have hplace : first + 1 + before.length = first + (line :: before).length := by
      rw [List.length_cons]
      omega
    have hrest := ih (first + 1)
    rw [hplace] at hrest
    rw [List.cons_append, List.cons_append, linesFrom, linesFrom]
    split
    · exact hrest
    · rw [List.map_cons, List.map_cons, List.map_cons, hrest]
      simp [Line.outline, Outline.move, numberBelow, Line.continues]

/-- The lines that count in a text stand below one another. -/
theorem isChain_number (first : Nat) (texts : List (List Char)) :
    (linesFrom first texts).IsChain (·.number < ·.number) :=
  (isChain_linesFrom (List.Subset.refl _)).1.imp fun _ _ h => h.lt

/-- **Layout does not matter.** A line that is blank or starts with `#`, put in anywhere, changes
neither whether a text is parsed nor the values of its entries: those that start above it stay on
their lines, and those below move down by one. -/
theorem parse_insert {before after : List String} {line : String}
    (hlines : ∀ l ∈ before ++ line :: after, '\n' ∉ l.toList)
    (hline : (∀ c ∈ line.toList, isBlank c) ∨ line.toList.head? = some '#') {moved : List Parsed} :
    parse ("\n".intercalate (before ++ line :: after)) = .ok moved ↔
      ∃ entries, parse ("\n".intercalate (before ++ after)) = .ok entries ∧
        entries.map (Parsed.move (numberBelow (before.length + 1))) = moved := by
  have htoList : ∀ parts : List String,
      ("\n".intercalate parts).toList = ['\n'].intercalate (parts.map String.toList) := by
    simp [String.toList_intercalate]
  have hskipped : isSkipped line.toList := by
    rw [isSkipped, Bool.or_eq_true, List.all_eq_true, beq_iff_eq]
    exact hline
  have hboth : ∀ part ∈ (before ++ after).map String.toList, '\n' ∉ part := by
    refine List.forall_mem_map.mpr fun l hl => hlines l ?_
    rcases List.mem_append.mp hl with hbefore | hafter
    · exact List.mem_append_left _ hbefore
    · exact List.mem_append_right _ (List.mem_cons_of_mem _ hafter)
  have hall : ∀ part ∈ (before ++ line :: after).map String.toList, '\n' ∉ part :=
    List.forall_mem_map.mpr hlines
  have hmoved := outline_linesFrom_insert hskipped (before.map String.toList)
    (after.map String.toList) 1
  rw [← List.map_cons, ← List.map_append, ← List.map_append,
    ← outline_linesFrom_intercalate hall, ← outline_linesFrom_intercalate hboth,
    List.length_map, Nat.add_comm 1] at hmoved
  rw [parse, parse, htoList, htoList, chunks, chunks]
  exact mapM_parse_of_moved (forall₂_moved hmoved) (isChain_number _ _) (isChain_number _ _)

/-- A wide blank on a line of its own, inside an entry and below a comment that ends with a carriage
return. -/
theorem parse_insert_blank :
    (∀ l ∈ ["\x7b 'a': # key\r"] ++ "\u3000" :: ["  [] \x7d", "'b'"], '\n' ∉ l.toList) ∧
      ((∀ c ∈ "\u3000".toList, isBlank c) ∨ "\u3000".toList.head? = some '#') ∧
      parse ("\n".intercalate (["\x7b 'a': # key\r"] ++ "\u3000" :: ["  [] \x7d", "'b'"])) =
        .ok [⟨.map [("a", .list [])], 1⟩, ⟨.string "b", 4⟩] := by
  have hlines : ∀ l ∈ ["\x7b 'a': # key\r"] ++ "\u3000" :: ["  [] \x7d", "'b'"],
      '\n' ∉ l.toList := by
    simp
  have hline : (∀ c ∈ "\u3000".toList, isBlank c) ∨ "\u3000".toList.head? = some '#' := by
    simp [isBlank]
  have hentries : parse ("\n".intercalate (["\x7b 'a': # key\r"] ++ ["  [] \x7d", "'b'"])) =
      .ok [⟨.map [("a", .list [])], 1⟩, ⟨.string "b", 3⟩] := by
    decide +kernel
  exact ⟨hlines, hline, (parse_insert hlines hline).mpr ⟨_, hentries, rfl⟩⟩

end RpcSchema.Entry
