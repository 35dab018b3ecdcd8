import RpcSchema.Proofs.Entry.Chunks
import RpcSchema.Proofs.Entry.Grammar

/-!
# Rendered values read back

The notation of a value is one line of strings, signs and single blanks. That it reads back as the
value is shown layer by layer: the line is an entry of its own (`chunks_intercalate`), its pieces
are the lexemes that it was put together from (`Spells`), and these derive the value
(`exists_spelled`). The parser agrees with the grammar, so nothing is said of its states here.

## Main definitions

* `Value.Writable` — the values that the notation has a text for
* `Spells` — a part of a line that is cut into given lexemes whatever follows it

## Main results

* `exists_spelled` — a rendered value spells lexemes that derive it
* `writable_of_parse` — what is parsed from a text is writable
* `parse_render` — rendering and parsing again gives the same values
-/

namespace RpcSchema.Entry

open RpcSchema.Text

/-! ### Values on one line -/

/-- The values whose strings and keys can stand between quotes on one line. -/
inductive Value.Writable : Value → Prop
  | string {text : String} (htext : IsContents text.toList) : Writable (.string text)
  | list {items : List Value} (hitems : ∀ item ∈ items, item.Writable) : Writable (.list items)
  | map {members : List (String × Value)} (hkeys : ∀ member ∈ members, IsContents member.1.toList)
    (hmembers : ∀ member ∈ members, member.2.Writable) : Writable (.map members)

/-! ### Texts and the lexemes in them -/

/-- Some text on one line that is cut into pieces with the given lexemes, whatever follows it. Its
first character is not one that continues an entry or has a line skipped, and its last one does not
belong to the end of the line. -/
structure Spells (text : List Char) (lexemes : List Lexeme) : Prop where
  head : ∃ c rest, text = c :: rest ∧ isBlank c = false ∧ c ≠ '#'
  newline_notMem : '\n' ∉ text
  getLast?_ne : text.getLast? ≠ some '\r'
  pieces : ∀ rest, ∃ pieces, Pieces rest pieces ∧ pieces.flatten = text ∧
    pieces.filterMap lexeme? = lexemes

variable {a b : List Char} {as bs : List Lexeme}

theorem Spells.ne_nil (h : Spells a as) : a ≠ [] := by
  obtain ⟨c, rest, rfl, -⟩ := h.head
  exact List.cons_ne_nil c rest

theorem Spells.append (ha : Spells a as) (hb : Spells b bs) : Spells (a ++ b) (as ++ bs) where
  head := by
    obtain ⟨c, rest, rfl, hc⟩ := ha.head
    exact ⟨c, rest ++ b, rfl, hc⟩
  newline_notMem := by
    rw [List.mem_append, not_or]
    exact ⟨ha.newline_notMem, hb.newline_notMem⟩
  getLast?_ne := by
    rw [List.getLast?_append_of_ne_nil _ hb.ne_nil]
    exact hb.getLast?_ne
  pieces := by
    intro rest
    obtain ⟨after, hafter, rfl, rfl⟩ := hb.pieces rest
    obtain ⟨before, hbefore, rfl, rfl⟩ := ha.pieces (after.flatten ++ rest)
    exact ⟨before ++ after, hbefore.append hafter, by simp, by simp⟩

/-- A blank before a part that starts with none is a piece without a lexeme. -/
theorem Spells.blank (ha : Spells a as) (hb : Spells b bs) :
    Spells (a ++ ' ' :: b) (as ++ bs) where
  head := by
    obtain ⟨c, rest, rfl, hc⟩ := ha.head
    exact ⟨c, rest ++ ' ' :: b, rfl, hc⟩
  newline_notMem := by
    rw [List.mem_append, List.mem_cons, not_or, not_or]
    exact ⟨ha.newline_notMem, by decide, hb.newline_notMem⟩
  getLast?_ne := by
    obtain ⟨c, rest, rfl, -⟩ := hb.head
    rw [List.getLast?_append_of_ne_nil _ (List.cons_ne_nil _ _), List.getLast?_cons_cons]
    exact hb.getLast?_ne
  pieces := by
    intro rest
    obtain ⟨c, more, hhead, hc, -⟩ := hb.head
    obtain ⟨after, hafter, rfl, rfl⟩ := hb.pieces rest
    have hblank : IsPiece [' '] (after.flatten ++ rest) := by
      refine .blanks (by simp [isBlank]) fun b hb => ?_
      rw [hhead] at hb
      obtain rfl := Option.some.inj hb
      exact hc
    have hall : Pieces rest ([' '] :: after) := .cons hblank hafter
    obtain ⟨before, hbefore, rfl, rfl⟩ := ha.pieces (([' '] :: after).flatten ++ rest)
    exact ⟨before ++ [' '] :: after, hbefore.append hall, by simp, by simp [lexeme?, punctuation?]⟩

theorem pieces_singleton {piece : List Char} (h : ∀ rest, IsPiece piece rest) {lexeme : Lexeme}
    (hlexeme : lexeme? piece = some lexeme) (rest : List Char) :
    ∃ pieces, Pieces rest pieces ∧ pieces.flatten = piece ∧ pieces.filterMap lexeme? = [lexeme] :=
  ⟨[piece], .cons (h _) .nil, by simp, by simp [hlexeme]⟩

theorem spells_sign {c : Char} {lexeme : Lexeme} (h : punctuation? c = some lexeme) :
    Spells [c] [lexeme] := by
  obtain ⟨-, hquote, hhash, hblank, -⟩ := punctuation?_eq_some h
  refine ⟨⟨c, [], rfl, hblank, hhash⟩, ?_, ?_, pieces_singleton (fun _ => .sign h) ?_⟩
  · intro hmem
    obtain rfl := List.mem_singleton.mp hmem
    cases hblank
  · rintro hlast
    obtain rfl := Option.some.inj hlast
    cases hblank
  · rw [lexeme?, if_neg hquote, h]

theorem spells_string {s : String} (h : IsContents s.toList) :
    Spells ("'" ++ s ++ "'").toList [.string s] := by
  have htext : ("'" ++ s ++ "'").toList = '\'' :: (s.toList ++ ['\'']) := by simp
  rw [htext]
  refine ⟨⟨'\'', _, rfl, by decide, by decide⟩, ?_, ?_, pieces_singleton (fun _ => .string h) ?_⟩
  · intro hmem
    have hnewline : '\n' ∈ s.toList := by simpa using hmem
    exact (h _ hnewline).2 rfl
  · rw [← List.cons_append, List.getLast?_concat]
    decide
  · simp [lexeme?]

/-- Parts with a comma and a blank before each. -/
theorem Spells.flatMap {α : Type} {parts : List α} {text : α → List Char}
    {lexemes : α → List Lexeme} (hparts : ∀ part ∈ parts, Spells (text part) (lexemes part))
    (ha : Spells a as) : Spells (a ++ parts.flatMap (fun part => ',' :: ' ' :: text part))
      (as ++ parts.flatMap (fun part => .comma :: lexemes part)) := by
  induction parts generalizing a as with
  | nil => simpa using ha
  | cons part parts ih =>
    obtain ⟨hpart, hrest⟩ := List.forall_mem_cons.mp hparts
    have hnext := ih hrest ((ha.append (spells_sign (c := ',') rfl)).blank hpart)
    simpa using hnext

/-- Some parts with commas in between, inside brackets. -/
theorem spells_bracketed {α : Type} {parts : List α} {text : α → String}
    {lexemes : α → List Lexeme}
    (hparts : ∀ part ∈ parts, Spells (text part).toList (lexemes part)) {c d : Char}
    {first last : Lexeme} (hc : punctuation? c = some first) (hd : punctuation? d = some last) :
    Spells (c :: ((", ".intercalate (parts.map text)).toList ++ [d]))
      (first :: ([Lexeme.comma].intercalate (parts.map lexemes) ++ [last])) := by
  have hopen := spells_sign hc
  have hclose := spells_sign hd
  cases parts with
  | nil => simpa using hopen.append hclose
  | cons part parts =>
    obtain ⟨hpart, hrest⟩ := List.forall_mem_cons.mp hparts
    have hall := ((hopen.append hpart).flatMap hrest).append hclose
    simpa [String.toList_intercalate, intercalate_cons, List.flatMap_map] using hall

/-! ### Values -/

theorem renderItems_eq (items : List Value) :
    Value.renderItems items = items.map Value.render := by
  induction items with
  | nil => rfl
  | cons item items ih => rw [Value.renderItems, ih, List.map_cons]

theorem renderMembers_eq (members : List (String × Value)) : Value.renderMembers members =
    members.map fun member => "'" ++ member.1 ++ "': " ++ member.2.render := by
  induction members with
  | nil => rfl
  | cons member members ih => rw [Value.renderMembers, ih, List.map_cons]

/-- Items without a comma after the last one. -/
theorem derives_list {items : List Value} {lexemes : Value → List Lexeme}
    (h : ∀ item ∈ items, Derives (lexemes item) item) :
    Derives (.openBracket :: ([Lexeme.comma].intercalate (items.map lexemes) ++ [.closeBracket]))
      (.list items) := by
  have hall : ∀ item ∈ items.map fun item => (lexemes item, item), Derives item.1 item.2 :=
    List.forall_mem_map.mpr h
  simpa [Function.comp_def] using Derives.list hall .plain

/-- Members without a comma after the last one. -/
theorem derives_map {members : List (String × Value)} {lexemes : String × Value → List Lexeme}
    (h : ∀ member ∈ members, Derives (lexemes member) member.2) :
    Derives (.openBrace :: ([Lexeme.comma].intercalate
        (members.map fun member => .string member.1 :: .colon :: lexemes member) ++ [.closeBrace]))
      (.map members) := by
  have hall : ∀ member ∈ members.map fun member => (member.1, lexemes member, member.2),
      Derives member.2.1 member.2.2 := List.forall_mem_map.mpr h
  simpa [Function.comp_def, memberLexemes] using Derives.map hall .plain

/-- A rendered value spells lexemes that derive it. -/
theorem exists_spelled {value : Value} (h : value.Writable) :
    ∃ lexemes, Spells value.render.toList lexemes ∧ Derives lexemes value := by
  induction h with
  | @string text htext => exact ⟨_, spells_string htext, .string text⟩
  | @list items hitems ih =>
    choose! lexemes hspells hderives using ih
    refine ⟨_, ?_, derives_list hderives⟩
    rw [Value.render, renderItems_eq]
    simpa using spells_bracketed (c := '[') (d := ']') hspells rfl rfl
  | @map members hkeys hmembers ih =>
    choose! lexemes hspells hderives using ih
    refine ⟨_, ?_, derives_map hderives⟩
    have hmember : ∀ member ∈ members,
        Spells ("'" ++ member.1 ++ "': " ++ member.2.render).toList
          (.string member.1 :: .colon :: lexemes member) := by
      intro member hmem
      have hkey := (spells_string (hkeys member hmem)).append (spells_sign (c := ':') rfl)
      simpa using hkey.blank (hspells member hmem)
    rw [Value.render, renderMembers_eq]
    simpa using spells_bracketed (c := '\x7b') (d := '\x7d') hmember rfl rfl

/-! ### One value to a line -/

/-- A rendered value is a line of a text. -/
theorem isLine_render {value : Value} (h : value.Writable) : IsLine value.render.toList := by
  obtain ⟨lexemes, hspells, -⟩ := exists_spelled h
  exact ⟨hspells.ne_nil, hspells.newline_notMem, hspells.getLast?_ne⟩

/-- Where no line continues another one, each is an entry. -/
theorem blocks_eq_map {ls : List Line} (h : ∀ line ∈ ls, line.continues = false) :
    blocks ls = ls.map (Block.mk · []) := by
  induction ls with
  | nil => rfl
  | cons line rest ih =>
    obtain ⟨hline, hrest⟩ := List.forall_mem_cons.mp h
    rw [blocks, ih hrest]
    cases rest with
    | nil => rfl
    | cons next rest => simp [(List.forall_mem_cons.mp hrest).1]

/-- Joined lines that start no comment and no blank are the entries. -/
theorem chunks_intercalate {texts : List (List Char)} (hlines : ∀ text ∈ texts, IsLine text)
    (hheads : ∀ text ∈ texts, ∃ c rest, text = c :: rest ∧ isBlank c = false ∧ c ≠ '#') :
    chunks (['\n'].intercalate texts) =
      (numbered 1 texts).map fun line => ⟨line.number, line.text⟩ := by
  have hline : ∀ line ∈ numbered 1 texts, line.continues = false ∧ isSkipped line.text = false := by
    intro line hmem
    obtain ⟨c, rest, htext, hblank, hhash⟩ :=
      hheads _ (List.mem_of_getElem? (mem_numbered.mp hmem).2)
    simp [Line.continues, isSkipped, htext, hblank, hhash]
  rw [chunks, lines_intercalate hlines, linesFrom_eq_filter,
    List.filter_eq_self.mpr fun line hmem => by simp [hline line hmem],
    blocks_eq_map fun line hmem => (hline line hmem).1, List.map_map]
  exact List.map_congr_left fun line _ => by simp [Block.chunk, continuation]

/-- The line of a rendered value is the entry of the value. -/
theorem parse_chunk_render {value : Value} (h : value.Writable) (hkeys : value.KeysDistinct)
    (number : Nat) : Chunk.parse ⟨number, value.render.toList⟩ = .ok ⟨value, number⟩ := by
  obtain ⟨lexemes, hspells, hderives⟩ := exists_spelled h
  obtain ⟨pieces, hpieces, htext, rfl⟩ := hspells.pieces []
  exact parse_chunk_eq_ok_iff.mpr ⟨rfl, pieces, htext.symm, hpieces, hderives, hkeys⟩

/-- The lines of rendered values are the entries of the values, numbered on. -/
theorem mapM_parse_render {values : List Value}
    (h : ∀ value ∈ values, value.Writable ∧ value.KeysDistinct) (first : Nat) :
    ((numbered first (values.map (·.render.toList))).map fun line =>
        Chunk.mk line.number line.text).mapM Chunk.parse =
      .ok ((values.zipIdx first).map fun (value, number) => ⟨value, number⟩) := by
  induction values generalizing first with
  | nil => rfl
  | cons value values ih =>
    obtain ⟨⟨hwritable, hkeys⟩, hrest⟩ := List.forall_mem_cons.mp h
    exact mapM_eq_ok.mpr (.cons (parse_chunk_render hwritable hkeys first)
      (mapM_eq_ok.mp (ih hrest (first + 1))))

theorem parse_intercalate {values : List Value}
    (h : ∀ value ∈ values, value.Writable ∧ value.KeysDistinct) :
    parse ("\n".intercalate (values.map Value.render)) =
      .ok ((values.zipIdx 1).map fun (value, number) => ⟨value, number⟩) := by
  have htext : ("\n".intercalate (values.map Value.render)).toList =
      ['\n'].intercalate (values.map (·.render.toList)) := by
    simp [String.toList_intercalate, Function.comp_def]
  have hline : ∀ text ∈ values.map (·.render.toList), IsLine text :=
    List.forall_mem_map.mpr fun value hvalue => isLine_render (h value hvalue).1
  rw [parse, htext, chunks_intercalate hline]
  · exact mapM_parse_render h 1
  · refine List.forall_mem_map.mpr fun value hvalue => ?_
    obtain ⟨lexemes, hspells, -⟩ := exists_spelled (h value hvalue).1
    exact hspells.head

/-! ### Values that are parsed -/

theorem Separated.subset {parts : List (List Lexeme)} {inner : List Lexeme}
    (h : Separated parts inner) : ∀ part ∈ parts, part ⊆ inner := by
  have hplain : ∀ part ∈ parts, part ⊆ [Lexeme.comma].intercalate parts := by
    intro part hpart
    cases parts with
    | nil => cases hpart
    | cons first rest =>
      rw [intercalate_cons]
      rcases List.mem_cons.mp hpart with rfl | hpart
      · exact List.subset_append_left _ _
      · intro lexeme hlexeme
        refine List.mem_append_right _ (List.mem_flatMap.mpr ⟨part, hpart, ?_⟩)
        exact List.mem_append_right _ hlexeme
  cases h with
  | plain => exact hplain
  | trailing => exact fun part hpart => List.subset_append_of_subset_left _ (hplain part hpart)

/-- A value is made of the strings among its lexemes. -/
theorem writable_of_derives {lexemes : List Lexeme} {value : Value} (h : Derives lexemes value)
    (hstrings : ∀ s, .string s ∈ lexemes → IsContents s.toList) : value.Writable := by
  induction h with
  | string text => exact .string (hstrings text (List.mem_singleton_self _))
  | list hitems hinner ih =>
    refine .list (List.forall_mem_map.mpr fun item hitem => ih item hitem fun s hs => ?_)
    have hmem := hinner.subset _ (List.mem_map_of_mem hitem) hs
    exact hstrings s (by simp [hmem])
  | @map members inner hmembers hinner ih =>
    have hmem : ∀ member ∈ members, memberLexemes member ⊆ inner := fun member hmember =>
      hinner.subset _ (List.mem_map_of_mem hmember)
    refine .map (List.forall_mem_map.mpr fun member hmember => hstrings _ ?_)
      (List.forall_mem_map.mpr fun member hmember => ih member hmember fun s hs => hstrings s ?_)
    · have hkey := hmem member hmember List.mem_cons_self
      simp [hkey]
    · have hvalue := hmem member hmember (List.mem_cons_of_mem _ (List.mem_cons_of_mem _ hs))
      simp [hvalue]

theorem isContents_of_mem_pieces {pieces : List (List Char)} (h : Pieces [] pieces) {s : String}
    (hs : .string s ∈ pieces.filterMap lexeme?) : IsContents s.toList := by
  rw [← map_lexeme_placed ⟨1, 1⟩] at hs
  obtain ⟨token, htoken, hlexeme⟩ := List.mem_map.mp hs
  obtain ⟨before, piece, after, -, hpiece, hfound, -⟩ := exists_of_mem_placed h htoken
  exact (lexeme?_of_isPiece hpiece hfound).2.2.2 s hlexeme

/-- What is parsed from a text is writable, with distinct keys. -/
theorem writable_of_parse {text : String} {entries : List Parsed}
    (h : parse text = .ok entries) :
    ∀ entry ∈ entries, entry.value.Writable ∧ entry.value.KeysDistinct := by
  intro entry hentry
  obtain ⟨chunk, -, hchunk⟩ := exists_item (mapM_eq_ok.mp h) hentry
  obtain ⟨-, pieces, -, hpieces, hderives, hkeys⟩ := parse_chunk_eq_ok_iff.mp hchunk
  exact ⟨writable_of_derives hderives fun s => isContents_of_mem_pieces hpieces, hkeys⟩

/-- **Parsing undoes rendering.** Values with no quote and no end of line in their strings and
keys, rendered one to a line, are parsed as the values in their order, each on its line. What is
parsed from any text is such, so rendering it and parsing again gives the same values. -/
theorem parse_render :
    (∀ values : List Value, (∀ value ∈ values, value.Writable ∧ value.KeysDistinct) →
      parse ("\n".intercalate (values.map Value.render)) =
        .ok ((values.zipIdx 1).map fun (value, number) => ⟨value, number⟩)) ∧
    ∀ text entries, parse text = .ok entries →
      (∀ entry ∈ entries, entry.value.Writable ∧ entry.value.KeysDistinct) ∧
      ∃ again, parse ("\n".intercalate (entries.map (·.value.render))) = .ok again ∧
        again.map Parsed.value = entries.map Parsed.value := by
  refine ⟨fun values h => parse_intercalate h, fun text entries h => ?_⟩
  have hwritable := writable_of_parse h
  have hagain := parse_intercalate (List.forall_mem_map.mpr hwritable)
  rw [List.map_map] at hagain
  refine ⟨hwritable, _, hagain, ?_⟩
  rw [List.map_map]
  exact List.zipIdx_map_fst 1 _

/-- Values with signs, blanks and a number sign in strings, and with nothing in places. -/
def corners : List Value := [.string "# ä", .list [], .map [("", .string " ["), ("]", .map [])]]

theorem parse_render_corners : (∀ value ∈ corners, value.Writable ∧ value.KeysDistinct) ∧
    parse ("\n".intercalate (corners.map Value.render)) =
      .ok ((corners.zipIdx 1).map fun (value, number) => ⟨value, number⟩) := by
  have hstring : ∀ {text : String}, IsContents text.toList →
      (Value.string text).Writable ∧ (Value.string text).KeysDistinct :=
    fun h => ⟨.string h, .string _⟩
  have hlist : (Value.list []).Writable ∧ (Value.list []).KeysDistinct := ⟨.list nofun, .list nofun⟩
  have hmap : (Value.map []).Writable ∧ (Value.map []).KeysDistinct :=
    ⟨.map nofun nofun, .map .nil nofun⟩
  have hsigns : (Value.string " [").Writable ∧ (Value.string " [").KeysDistinct :=
    hstring (by simp [IsContents])
  have hwritable : ∀ value ∈ corners, value.Writable ∧ value.KeysDistinct := by
    simp only [corners, List.forall_mem_cons]
    refine ⟨hstring (by simp [IsContents]), hlist, ⟨.map ?_ ?_, .map ?_ ?_⟩, nofun⟩
    · simp [IsContents]
    · simp [hsigns, hmap]
    · simp
    · simp [hsigns, hmap]
  exact ⟨hwritable, parse_render.1 corners hwritable⟩

end RpcSchema.Entry
