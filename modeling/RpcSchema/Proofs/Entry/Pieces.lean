import Mathlib.Data.List.TakeWhile
import Mathlib.Tactic.Common
import RpcSchema.Entry.Token

/-!
# A text as its pieces

The tokenizer cuts a text into strings, signs, comments and runs of blanks, each as long as it can
be. Here a piece is a relation between some text and what follows it, which says nothing of how the
cut is found, and tokenizing is read off the cut: the tokens are the pieces that are strings or
signs, each at the place that the pieces before it lead to, and tokenizing fails exactly where no
piece starts.

## Main definitions

* `IsPiece` — a piece, and what may follow it
* `Pieces` — a text cut into pieces, up to some rest
* `Stuck` — a text that starts with no piece
* `placed` — the tokens among some pieces

## Main results

* `pieceLength_eq`, `exists_isPiece` — the tokenizer finds the piece that a text starts with
* `tokens_eq_ok_iff`, `tokens_eq_error_iff` — tokenizing as a cut into pieces
-/

namespace RpcSchema.Entry

open RpcSchema.Text

/-! ### Pieces -/

/-- A text that can stand between the quotes of a string. -/
def IsContents (cs : List Char) : Prop := ∀ c ∈ cs, c ≠ '\'' ∧ c ≠ '\n'

/-- A text is a piece if it is followed by the given rest. Only comments and runs of blanks depend
on what follows: they go on as far as they can. -/
inductive IsPiece : List Char → List Char → Prop
  | string {inner rest : List Char} (hinner : IsContents inner) :
    IsPiece ('\'' :: (inner ++ ['\''])) rest
  | comment {body rest : List Char} (hbody : '\n' ∉ body) (hrest : ∀ c ∈ rest.head?, c = '\n') :
    IsPiece ('#' :: body) rest
  | blanks {c : Char} {cs rest : List Char} (hblank : ∀ b ∈ c :: cs, isBlank b)
    (hrest : ∀ b ∈ rest.head?, isBlank b = false) : IsPiece (c :: cs) rest
  | sign {c : Char} {lexeme : Lexeme} {rest : List Char} (hsign : punctuation? c = some lexeme) :
    IsPiece [c] rest

/-- A text that is not empty and starts with no piece. -/
def Stuck (text : List Char) : Prop :=
  text ≠ [] ∧ ∀ piece rest, text = piece ++ rest → ¬IsPiece piece rest

/-- A text before the given rest, cut into pieces. -/
inductive Pieces (rest : List Char) : List (List Char) → Prop
  | nil : Pieces rest []
  | cons {piece : List Char} {more : List (List Char)}
    (hpiece : IsPiece piece (more.flatten ++ rest)) (hmore : Pieces rest more) :
    Pieces rest (piece :: more)

theorem Pieces.append {rest : List Char} {before after : List (List Char)}
    (hbefore : Pieces (after.flatten ++ rest) before) (hafter : Pieces rest after) :
    Pieces rest (before ++ after) := by
  induction hbefore with
  | nil => exact hafter
  | @cons piece more hpiece _ ih =>
    have hrest : (more ++ after).flatten ++ rest = more.flatten ++ (after.flatten ++ rest) := by
      rw [List.flatten_append, List.append_assoc]
    exact .cons (hrest ▸ hpiece) ih

/-! ### Characters -/

/-- The signs with their lexemes. -/
theorem punctuation?_eq_some {c : Char} {lexeme : Lexeme} (h : punctuation? c = some lexeme) :
    lexeme.text.toList = [c] ∧ c ≠ '\'' ∧ c ≠ '#' ∧ isBlank c = false ∧ lexeme ≠ .finish ∧
      lexeme.isString = false := by
  unfold punctuation? at h
  split at h <;> cases h <;> decide

theorem punctuation?_of_isBlank {c : Char} (h : isBlank c) : punctuation? c = none := by
  cases hsign : punctuation? c with
  | none => rfl
  | some lexeme => simp [(punctuation?_eq_some hsign).2.2.2.1] at h

theorem ne_quote_of_isBlank {c : Char} (h : isBlank c) : c ≠ '\'' := by
  rintro rfl
  cases h

theorem ne_hash_of_isBlank {c : Char} (h : isBlank c) : c ≠ '#' := by
  rintro rfl
  cases h

/-! ### The piece at the head of a text -/

theorem takeWhile_eq_of_head? {p : Char → Bool} {cs rest : List Char} (hcs : ∀ c ∈ cs, p c)
    (hrest : ∀ c ∈ rest.head?, p c = false) : (cs ++ rest).takeWhile p = cs := by
  rw [List.takeWhile_append_of_pos hcs]
  cases rest with
  | nil => simp
  | cons c rest => simp [hrest c rfl]

theorem contents?_eq {inner rest : List Char} (hinner : IsContents inner) :
    contents? (inner ++ '\'' :: rest) = some inner := by
  have htake : (inner ++ '\'' :: rest).takeWhile (fun c => c != '\'' && c != '\n') = inner := by
    refine takeWhile_eq_of_head? (fun c hc => ?_) ?_
    · simpa using hinner c hc
    · simp
  simp [contents?, htake]

theorem isContents_of_contents? {cs inner : List Char} (h : contents? cs = some inner) :
    IsContents inner ∧ ∃ rest, cs = inner ++ '\'' :: rest := by
  simp only [contents?] at h
  split at h
  · rename_i hquote
    cases h
    refine ⟨fun c hc => by simpa using List.mem_takeWhile_imp hc, ?_⟩
    have hsplit := List.takeWhile_append_dropWhile (p := fun c => c != '\'' && c != '\n') (l := cs)
    have hdrop : (cs.dropWhile fun c => c != '\'' && c != '\n').head? = some '\'' := by
      rw [← hquote, List.head?_eq_getElem?]
      conv_rhs => rw [← hsplit]
      rw [List.getElem?_append_right (by simp [hsplit])]
      simp [hsplit]
    obtain ⟨rest, hrest⟩ := List.head?_eq_some_iff.mp hdrop
    exact ⟨rest, by rw [← hrest, hsplit]⟩
  · cases h

theorem eq_false_of_head?_dropWhile {p : Char → Bool} {cs : List Char} {c : Char}
    (h : c ∈ (cs.dropWhile p).head?) : p c = false := by
  have hfalse := List.head?_dropWhile_not p cs
  rwa [show (cs.dropWhile p).head? = some c from h] at hfalse

/-- A piece is as long as the tokenizer finds it to be, so a text starts with at most one. -/
theorem pieceLength_eq {piece rest : List Char} (h : IsPiece piece rest) :
    pieceLength (piece ++ rest) = piece.length := by
  cases h with
  | string hinner =>
    rw [List.cons_append, List.append_assoc, List.singleton_append, pieceLength, if_pos rfl,
      contents?_eq hinner]
    simp
  | @comment body _ hbody hrest =>
    have htake : (body ++ rest).takeWhile (· != '\n') = body := by
      refine takeWhile_eq_of_head? (fun c hc => ?_) fun c hc => by simp [hrest c hc]
      have hne : c ≠ '\n' := fun h => hbody (h ▸ hc)
      simp [hne]
    rw [List.cons_append, pieceLength, if_neg (by decide), if_pos rfl, htake, List.length_cons,
      Nat.add_comm]
  | @blanks c cs _ hblank hrest =>
    obtain ⟨hc, hcs⟩ := List.forall_mem_cons.mp hblank
    rw [List.cons_append, pieceLength, if_neg (ne_quote_of_isBlank hc),
      if_neg (ne_hash_of_isBlank hc), if_pos hc, takeWhile_eq_of_head? hcs hrest, List.length_cons,
      Nat.add_comm]
  | @sign c lexeme _ hsign =>
    obtain ⟨-, hquote, hhash, hblank, -⟩ := punctuation?_eq_some hsign
    simp [pieceLength, hquote, hhash, hblank, hsign]

theorem length_pos_of_isPiece {piece rest : List Char} (h : IsPiece piece rest) :
    0 < piece.length := by
  cases h <;> simp

/-- A text for which the tokenizer finds a length starts with a piece. -/
theorem exists_isPiece {text : List Char} (h : pieceLength text ≠ 0) :
    ∃ piece rest, text = piece ++ rest ∧ IsPiece piece rest := by
  cases text with
  | nil => exact absurd rfl h
  | cons c text =>
    rw [pieceLength] at h
    split at h
    · rename_i hc
      subst hc
      cases hinner : contents? text with
      | none => simp [hinner] at h
      | some inner =>
        obtain ⟨hcontents, rest, rfl⟩ := isContents_of_contents? hinner
        exact ⟨'\'' :: (inner ++ ['\'']), rest, by simp, .string hcontents⟩
    split at h
    · rename_i hc
      subst hc
      refine ⟨'#' :: text.takeWhile (· != '\n'), text.dropWhile (· != '\n'), ?_, .comment ?_ ?_⟩
      · rw [List.cons_append, List.takeWhile_append_dropWhile]
      · intro hmem
        simpa using List.mem_takeWhile_imp hmem
      · intro b hb
        simpa using eq_false_of_head?_dropWhile hb
    split at h
    · rename_i hc
      refine ⟨c :: text.takeWhile isBlank, text.dropWhile isBlank, ?_, .blanks ?_ ?_⟩
      · rw [List.cons_append, List.takeWhile_append_dropWhile]
      · exact List.forall_mem_cons.mpr ⟨hc, fun b hb => List.mem_takeWhile_imp hb⟩
      · exact fun b hb => eq_false_of_head?_dropWhile hb
    split at h
    · rename_i hsign
      obtain ⟨lexeme, hlexeme⟩ := Option.isSome_iff_exists.mp hsign
      exact ⟨[c], text, rfl, .sign hlexeme⟩
    · exact absurd rfl h

theorem stuck_of_pieceLength {text : List Char} (hne : text ≠ []) (h : pieceLength text = 0) :
    Stuck text := by
  refine ⟨hne, fun piece rest htext hpiece => ?_⟩
  rw [htext, pieceLength_eq hpiece] at h
  exact absurd h (length_pos_of_isPiece hpiece).ne'

theorem Stuck.pieceLength {text : List Char} (h : Stuck text) : Entry.pieceLength text = 0 := by
  by_contra hlength
  obtain ⟨piece, rest, htext, hpiece⟩ := exists_isPiece hlength
  exact h.2 piece rest htext hpiece

/-- Every text is a row of pieces up to its end or to a place where none starts. -/
theorem exists_pieces (text : List Char) :
    ∃ pieces rest, text = pieces.flatten ++ rest ∧ Pieces rest pieces ∧
      (rest = [] ∨ Stuck rest) := by
  induction hn : text.length using Nat.strongRecOn generalizing text with
  | ind n ih =>
    by_cases hne : text = []
    · exact ⟨[], text, rfl, .nil, .inl hne⟩
    by_cases hlength : pieceLength text = 0
    · exact ⟨[], text, rfl, .nil, .inr (stuck_of_pieceLength hne hlength)⟩
    obtain ⟨piece, after, rfl, hpiece⟩ := exists_isPiece hlength
    have hshorter : after.length < n := by
      have hpos := length_pos_of_isPiece hpiece
      rw [← hn, List.length_append]
      omega
    obtain ⟨pieces, rest, rfl, hpieces, hrest⟩ := ih _ hshorter after rfl
    exact ⟨piece :: pieces, rest, by simp, .cons hpiece hpieces, hrest⟩

/-! ### Tokens -/

/-- The tokens among the pieces of a text that starts at the given place. -/
def placed (start : Position) : List (List Char) → List Token
  | [] => []
  | piece :: more =>
    ((lexeme? piece).map (Token.mk · start)).toList ++ placed (start.advance piece) more

theorem Position.advance_append (p : Position) (a b : List Char) :
    p.advance (a ++ b) = (p.advance a).advance b := List.foldl_append

/-- A piece that is a token is the text of its lexeme, and stands on one line. -/
theorem lexeme?_of_isPiece {piece rest : List Char} (h : IsPiece piece rest) {lexeme : Lexeme}
    (hlexeme : lexeme? piece = some lexeme) :
    lexeme.text.toList = piece ∧ '\n' ∉ piece ∧ lexeme ≠ .finish ∧
      ∀ s, lexeme = .string s → IsContents s.toList := by
  cases h with
  | @string inner _ hinner =>
    have hstring : lexeme = .string (String.ofList inner) := by
      simpa [lexeme?, eq_comm] using hlexeme
    subst hstring
    refine ⟨by simp [Lexeme.text], fun hmem => ?_, by simp, ?_⟩
    · have hnewline : '\n' ∈ inner := by simpa using hmem
      exact (hinner _ hnewline).2 rfl
    · rintro s ⟨⟩
      simpa using hinner
  | @comment body _ hbody hrest =>
    simp [lexeme?, punctuation?] at hlexeme
  | @blanks c cs _ hblank hrest =>
    have hc := hblank c List.mem_cons_self
    simp [lexeme?, ne_quote_of_isBlank hc, punctuation?_of_isBlank hc] at hlexeme
  | @sign c found _ hsign =>
    obtain ⟨htext, hquote, -, hblank, hfinish, hstring⟩ := punctuation?_eq_some hsign
    have hfound : found = lexeme := by simpa [lexeme?, hquote, hsign] using hlexeme
    subst hfound
    refine ⟨htext, fun hmem => ?_, hfinish, ?_⟩
    · obtain rfl := List.mem_singleton.mp hmem
      cases hblank
    · rintro s rfl
      cases hstring

/-- The first piece of a text is the first to be looked at. -/
theorem tokens_append_piece {piece rest : List Char} (h : IsPiece piece rest) (start : Position) :
    tokens start (piece ++ rest) =
      (tokens (start.advance piece) rest).map
        (((lexeme? piece).map (Token.mk · start)).toList ++ ·) := by
  have hlength := pieceLength_eq h
  have hpos := length_pos_of_isPiece h
  have htake : (piece ++ rest).take piece.length = piece := List.take_left
  have hdrop : (piece ++ rest).drop piece.length = rest := List.drop_left
  cases htext : piece ++ rest with
  | nil => simp_all
  | cons c text =>
    rw [tokens, ← htext, dif_neg (by omega), hlength]
    simp only [htake, hdrop]
    cases tokens (start.advance piece) rest with
    | error e => rfl
    | ok more => cases lexeme? piece <;> rfl

/-- The tokens of a row of pieces come before those of the rest. -/
theorem tokens_append {rest : List Char} {pieces : List (List Char)} (h : Pieces rest pieces)
    (start : Position) :
    tokens start (pieces.flatten ++ rest) =
      (tokens (start.advance pieces.flatten) rest).map (placed start pieces ++ ·) := by
  induction h generalizing start with
  | nil => cases hrest : tokens start rest <;> simp [placed, Position.advance, Except.map, hrest]
  | @cons piece more hpiece _ ih =>
    rw [List.flatten_cons, List.append_assoc, tokens_append_piece hpiece, ih,
      Position.advance_append]
    cases tokens ((start.advance piece).advance more.flatten) rest <;>
      simp [placed, Except.map]

theorem tokens_nil (start : Position) : tokens start [] = .ok [⟨.finish, start⟩] := by
  rw [tokens]

theorem tokens_stuck {rest : List Char} (h : Stuck rest) (start : Position) :
    tokens start rest = .error (start, .ofGap (gap rest)) := by
  cases rest with
  | nil => exact absurd rfl h.1
  | cons c text => rw [tokens, dif_pos h.pieceLength]

/-- A text has tokens exactly if it is a row of pieces, and they are those among its pieces. -/
theorem tokens_eq_ok_iff {start : Position} {text : List Char} {ts : List Token} :
    tokens start text = .ok ts ↔ ∃ pieces, text = pieces.flatten ∧ Pieces [] pieces ∧
      ts = placed start pieces ++ [⟨.finish, start.advance text⟩] := by
  constructor
  · intro h
    obtain ⟨pieces, rest, rfl, hpieces, hrest⟩ := exists_pieces text
    rw [tokens_append hpieces] at h
    rcases hrest with rfl | hstuck
    · rw [tokens_nil] at h
      cases h
      exact ⟨pieces, by simp, hpieces, by simp⟩
    · rw [tokens_stuck hstuck] at h
      cases h
  · rintro ⟨pieces, rfl, hpieces, rfl⟩
    have htokens := tokens_append hpieces start
    rwa [List.append_nil, tokens_nil] at htokens

/-- A text has no tokens exactly if its pieces lead to a place where none starts, and that place is
reported. -/
theorem tokens_eq_error_iff {start place : Position} {text : List Char} {error : TokenError} :
    tokens start text = .error (place, error) ↔ ∃ pieces rest, text = pieces.flatten ++ rest ∧
      Pieces rest pieces ∧ Stuck rest ∧ place = start.advance pieces.flatten ∧
        error = .ofGap (gap rest) := by
  constructor
  · intro h
    obtain ⟨pieces, rest, rfl, hpieces, hrest⟩ := exists_pieces text
    rw [tokens_append hpieces] at h
    rcases hrest with rfl | hstuck
    · rw [tokens_nil] at h
      cases h
    · rw [tokens_stuck hstuck] at h
      cases h
      exact ⟨pieces, rest, rfl, hpieces, hstuck, rfl, rfl⟩
  · rintro ⟨pieces, rest, rfl, hpieces, hstuck, rfl, rfl⟩
    rw [tokens_append hpieces, tokens_stuck hstuck]
    rfl

theorem map_lexeme_placed (start : Position) (pieces : List (List Char)) :
    (placed start pieces).map Token.lexeme = pieces.filterMap lexeme? := by
  induction pieces generalizing start with
  | nil => rfl
  | cons piece more ih =>
    rw [placed, List.map_append, ih, List.filterMap_cons]
    cases lexeme? piece <;> rfl

/-- A token among some pieces is one of them, at the place that those before it lead to. -/
theorem exists_of_mem_placed {start : Position} {rest : List Char} {pieces : List (List Char)}
    (h : Pieces rest pieces) {token : Token} (htoken : token ∈ placed start pieces) :
    ∃ before piece after, pieces = before ++ piece :: after ∧
      IsPiece piece (after.flatten ++ rest) ∧ lexeme? piece = some token.lexeme ∧
        token.position = start.advance before.flatten := by
  induction h generalizing start with
  | nil => cases htoken
  | @cons piece more hpiece _ ih =>
    rcases List.mem_append.mp htoken with htoken | htoken
    · cases hlexeme : lexeme? piece with
      | none => simp [hlexeme] at htoken
      | some lexeme =>
        obtain rfl : token = ⟨lexeme, start⟩ := by simpa [hlexeme] using htoken
        exact ⟨[], piece, more, rfl, hpiece, hlexeme, rfl⟩
    · obtain ⟨before, other, after, rfl, hother, hlexeme, hposition⟩ := ih htoken
      refine ⟨piece :: before, other, after, rfl, hother, hlexeme, ?_⟩
      rw [hposition, List.flatten_cons, Position.advance_append]

end RpcSchema.Entry
