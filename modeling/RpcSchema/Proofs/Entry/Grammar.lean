import Mathlib.Data.List.Nodup
import RpcSchema.Entry.Parser
import RpcSchema.Proofs.Entry.Pieces
import RpcSchema.Proofs.Success
import RpcSchema.Proofs.Text.Lines

/-!
# The parser accepts its grammar

The grammar of entries is the relation `Derives` between lexemes and a value, without a parser in
it; that keys are distinct is a condition on the value alone. The parser agrees with it in both
directions.

* A derived value is read wherever a value may come next (`Derives.reads`, by induction on the
  derivation). The statement covers values with repeated keys too: for these every run fails, at
  such a key. It is why an entry that is read derives no second value.
* Whatever the parser has taken without a failure leads to its state (`State.ReachedBy`): each open
  list or map stands for an opening bracket, the parts that are complete and a comma after each.
  A step keeps this, and a complete value on an empty stack is one that the tokens derive.

## Main definitions

* `Derives`, `Value.KeysDistinct` — the grammar, and its side condition
* `Outcome`, `Reads` — a run that succeeds exactly under a condition, and lexemes that read as a
  value in this sense
* `State.ReachedBy` — the invariant of the parser

## Main results

* `Derives.reads` — what the grammar derives, the parser reads
* `State.ReachedBy.step`, `State.ReachedBy.run` — the invariant along a run
* `parse_chunk_eq_ok_iff` — the entry of a chunk, from the pieces of its text
* `parseTokens_eq_ok_iff` — the values that rows of tokens are read as
-/

namespace RpcSchema.Entry

/-! ### The grammar -/

/-- Parts with commas between them; after the last part there may be a comma too. -/
inductive Separated (parts : List (List Lexeme)) : List Lexeme → Prop
  | plain : Separated parts ([Lexeme.comma].intercalate parts)
  | trailing (hne : parts ≠ []) : Separated parts ([Lexeme.comma].intercalate parts ++ [.comma])

/-- The lexemes of a member: its key, a colon and those of its value. -/
def memberLexemes (member : String × List Lexeme × Value) : List Lexeme :=
  .string member.1 :: .colon :: member.2.1

/-- The values that some lexemes derive. Items and members stand in their order, each with the
lexemes that derive it. -/
inductive Derives : List Lexeme → Value → Prop
  | string (text : String) : Derives [.string text] (.string text)
  | list {items : List (List Lexeme × Value)} {inner : List Lexeme}
    (hitems : ∀ item ∈ items, Derives item.1 item.2)
    (hinner : Separated (items.map (·.1)) inner) :
    Derives (.openBracket :: (inner ++ [.closeBracket])) (.list (items.map (·.2)))
  | map {members : List (String × List Lexeme × Value)} {inner : List Lexeme}
    (hmembers : ∀ member ∈ members, Derives member.2.1 member.2.2)
    (hinner : Separated (members.map memberLexemes) inner) :
    Derives (.openBrace :: (inner ++ [.closeBrace]))
      (.map (members.map fun member => (member.1, member.2.2)))

/-- The values in which the keys of every map are distinct. -/
inductive Value.KeysDistinct : Value → Prop
  | string (text : String) : KeysDistinct (.string text)
  | list {items : List Value} (hitems : ∀ item ∈ items, item.KeysDistinct) :
    KeysDistinct (.list items)
  | map {members : List (String × Value)} (hkeys : (members.map (·.1)).Nodup)
    (hmembers : ∀ member ∈ members, member.2.KeysDistinct) : KeysDistinct (.map members)

theorem Value.keysDistinct_list {items : List Value} :
    (Value.list items).KeysDistinct ↔ ∀ item ∈ items, item.KeysDistinct :=
  ⟨fun | .list hitems => hitems, .list⟩

theorem Value.keysDistinct_map {members : List (String × Value)} :
    (Value.map members).KeysDistinct ↔
      (members.map (·.1)).Nodup ∧ ∀ member ∈ members, member.2.KeysDistinct :=
  ⟨fun | .map hkeys hmembers => ⟨hkeys, hmembers⟩, fun ⟨hkeys, hmembers⟩ => .map hkeys hmembers⟩

/-- No value starts like the end of a list. -/
theorem Derives.exists_cons {lexemes : List Lexeme} {value : Value} (h : Derives lexemes value) :
    ∃ first rest, lexemes = first :: rest ∧ first ≠ .closeBracket := by
  cases h with
  | string text => exact ⟨_, _, rfl, nofun⟩
  | list hitems hinner => exact ⟨_, _, rfl, nofun⟩
  | map hmembers hinner => exact ⟨_, _, rfl, nofun⟩

theorem separated_nil {inner : List Lexeme} (h : Separated [] inner) : inner = [] := by
  cases h with
  | plain => rfl
  | trailing hne => exact absurd rfl hne

/-- What a comma after the last part adds. -/
theorem separated_cons {first : List Lexeme} {rest : List (List Lexeme)} {inner : List Lexeme}
    (h : Separated (first :: rest) inner) :
    ∃ last, (last = [] ∨ last = [.comma]) ∧
      inner = first ++ (rest.flatMap (.comma :: ·) ++ last) := by
  cases h with
  | plain => exact ⟨[], .inl rfl, by simp [intercalate_cons]⟩
  | trailing => exact ⟨[.comma], .inr rfl, by simp [intercalate_cons]⟩

/-- Parts with a comma after each but the last. -/
theorem separated_concat {α : Type} (part : α → List Lexeme) (before : List α) (last : α) :
    Separated ((before ++ [last]).map part) (before.flatMap (part · ++ [.comma]) ++ part last) := by
  have hcommas : before.flatMap (part · ++ [.comma]) =
      (before.map part).flatMap (· ++ [Lexeme.comma]) := by
    rw [List.flatMap_map]
  rw [hcommas, List.map_append, List.map_singleton, ← intercalate_concat]
  exact .plain

/-- Parts with a comma after each. -/
theorem separated_flatMap {α : Type} (part : α → List Lexeme) (parts : List α) :
    Separated (parts.map part) (parts.flatMap (part · ++ [.comma])) := by
  rcases List.eq_nil_or_concat' parts with rfl | ⟨before, last, rfl⟩
  · exact .plain
  · have h : (before ++ [last]).flatMap (part · ++ [.comma]) =
        [Lexeme.comma].intercalate ((before ++ [last]).map part) ++ [.comma] := by
      rw [List.map_append, List.map_singleton, intercalate_concat, List.flatMap_map]
      simp
    rw [h]
    exact .trailing (by simp)

/-! ### Derived values are read -/

/-- A result that is the expected one if a condition holds, and reports a repeated key if it does
not. -/
def Outcome (good : Prop) (result expected : Except ParseError State) : Prop :=
  (good → result = expected) ∧
    (¬good → ∃ key : Key, result = .error ⟨key.position, .duplicateKey key.name⟩)

theorem Outcome.of_eq {good : Prop} {result expected : Except ParseError State}
    (h : result = expected) (hgood : good) : Outcome good result expected :=
  ⟨fun _ => h, fun hbad => absurd hgood hbad⟩

theorem Outcome.congr {good better : Prop} {result expected : Except ParseError State}
    (h : Outcome good result expected) (hiff : better ↔ good) : Outcome better result expected := by
  rwa [propext hiff]

theorem run_append (state : State) (before after : List Token) :
    run state (before ++ after) = run state before >>= (run · after) := by
  induction before generalizing state with
  | nil => rfl
  | cons token before ih =>
    rw [List.cons_append, run, run]
    cases step state token with
    | error e => rfl
    | ok next => exact ih next

theorem run_cons {state : State} (next : State) {token : Token} (h : step state token = .ok next)
    (rest : List Token) : run state (token :: rest) = run next rest :=
  bind_of_eq_ok h _

theorem run_singleton (state : State) (token : Token) : run state [token] = step state token := by
  rw [run]
  cases step state token <;> rfl

theorem Outcome.append {good better : Prop} {state next : State} {before after : List Token}
    {expected : Except ParseError State} (hbefore : Outcome good (run state before) (.ok next))
    (hafter : Outcome better (run next after) expected) :
    Outcome (good ∧ better) (run state (before ++ after)) expected := by
  rw [run_append]
  constructor
  · rintro ⟨hgood, hbetter⟩
    rw [hbefore.1 hgood]
    exact hafter.1 hbetter
  · intro hbad
    by_cases hgood : good
    · rw [hbefore.1 hgood]
      exact hafter.2 fun hbetter => hbad ⟨hgood, hbetter⟩
    · obtain ⟨e, he⟩ := hbefore.2 hgood
      exact ⟨e, by rw [he]; rfl⟩

/-- Lexemes that read as a value wherever a value may come next, if its keys are distinct. -/
def Reads (lexemes : List Lexeme) (value : Value) : Prop :=
  ∀ stack ts, ts.map Token.lexeme = lexemes →
    Outcome value.KeysDistinct (run ⟨stack, .value⟩ ts) (complete stack value)

variable (stack : List Frame)

section

variable (before : List Value) {items : List (List Lexeme × Value)}

/-- One more item of a list. -/
theorem Reads.item {item : List Lexeme × Value} (hderives : Derives item.1 item.2)
    (h : Reads item.1 item.2) {ts : List Token} (hts : ts.map Token.lexeme = item.1) :
    Outcome item.2.KeysDistinct (run ⟨stack, .item before⟩ ts)
      (.ok ⟨stack, .listRest (before ++ [item.2])⟩) := by
  have hvalue : run ⟨stack, .item before⟩ ts = run ⟨.list before :: stack, .value⟩ ts := by
    obtain ⟨first, rest, hfirst, hne⟩ := hderives.exists_cons
    obtain ⟨token, more, rfl, rfl, -⟩ := List.map_eq_cons_iff.mp (hts.trans hfirst)
    simp only [run, step, if_neg hne]
  rw [hvalue]
  exact h _ ts hts

/-- What comes after an item of a list, up to its end. -/
theorem run_listRest (hitems : ∀ item ∈ items, Derives item.1 item.2 ∧ Reads item.1 item.2)
    {last : List Lexeme} (hlast : last = [] ∨ last = [.comma]) {ts : List Token}
    (hts : ts.map Token.lexeme = items.flatMap (.comma :: ·.1) ++ (last ++ [.closeBracket])) :
    Outcome (∀ item ∈ items, item.2.KeysDistinct) (run ⟨stack, .listRest before⟩ ts)
      (complete stack (.list (before ++ items.map (·.2)))) := by
  induction items generalizing before ts with
  | nil =>
    have hgood : ∀ item ∈ ([] : List (List Lexeme × Value)), item.2.KeysDistinct := nofun
    rcases hlast with rfl | rfl
    · obtain ⟨token, rfl, htoken⟩ := List.map_eq_singleton_iff.mp hts
      refine .of_eq ?_ hgood
      simp [run_singleton, step, htoken]
    · obtain ⟨comma, more, rfl, hcomma, hmore⟩ := List.map_eq_cons_iff.mp hts
      obtain ⟨token, rfl, htoken⟩ := List.map_eq_singleton_iff.mp hmore
      refine .of_eq ?_ hgood
      rw [run_cons ⟨stack, .item before⟩ (by simp [step, hcomma])]
      simp [run_singleton, step, htoken]
  | cons item items ih =>
    obtain ⟨⟨hderives, hreads⟩, hrest⟩ := List.forall_mem_cons.mp hitems
    rw [List.flatMap_cons, List.append_assoc, List.cons_append] at hts
    obtain ⟨comma, more, rfl, hcomma, hmore⟩ := List.map_eq_cons_iff.mp hts
    obtain ⟨first, rest, rfl, hfirst, hafter⟩ := List.map_eq_append_iff.mp hmore
    rw [run_cons ⟨stack, .item before⟩ (by simp [step, hcomma])]
    have hboth := (hreads.item stack before hderives hfirst).append (ih _ hrest hafter)
    rw [List.append_assoc] at hboth
    exact hboth.congr List.forall_mem_cons

end

section

variable (opened : Position) (before : List (String × Value))
  {members : List (String × List Lexeme × Value)}

theorem isSome_lookup_iff {key : String} :
    (before.lookup key).isSome ↔ key ∈ before.map (·.1) := by
  rw [List.lookup_isSome_iff, List.mem_map]
  exact exists_congr fun member => and_congr_right fun _ => by rw [beq_iff_eq, eq_comm]

/-- The members that some lexemes derive. -/
def derivedMembers (members : List (String × List Lexeme × Value)) : List (String × Value) :=
  members.map fun member => (member.1, member.2.2)

/-- One more member of a map. Its key is compared with those before it when its value is
complete. -/
theorem Reads.member {member : String × List Lexeme × Value} (h : Reads member.2.1 member.2.2)
    {ts : List Token} (hts : ts.map Token.lexeme = memberLexemes member) :
    Outcome (member.2.2.KeysDistinct ∧ member.1 ∉ before.map (·.1))
      (run ⟨stack, .key opened before⟩ ts)
      (.ok ⟨stack, .mapRest opened (before ++ [(member.1, member.2.2)])⟩) := by
  obtain ⟨name, more, rfl, hname, hmore⟩ := List.map_eq_cons_iff.mp hts
  obtain ⟨colon, rest, rfl, hcolon, hrest⟩ := List.map_eq_cons_iff.mp hmore
  let key : Key := ⟨member.1, name.position⟩
  rw [run_cons ⟨stack, .colon opened before key⟩ (by simp [step, hname, key]),
    run_cons ⟨.map opened before key :: stack, .value⟩ (by simp [step, hcolon])]
  have hvalue := h (.map opened before key :: stack) rest hrest
  constructor
  · rintro ⟨hgood, hnew⟩
    rw [hvalue.1 hgood, complete, if_neg ((isSome_lookup_iff before).not.mpr hnew)]
  · intro hbad
    by_cases hgood : member.2.2.KeysDistinct
    · have hold : member.1 ∈ before.map (·.1) := by_contra fun hnew => hbad ⟨hgood, hnew⟩
      refine ⟨key, ?_⟩
      rw [hvalue.1 hgood, complete, if_pos ((isSome_lookup_iff before).mpr hold)]
    · exact hvalue.2 hgood

/-- Distinct keys that no member before them has. -/
def Fresh (before : List (String × Value)) (keys : List String) : Prop :=
  keys.Nodup ∧ ∀ key ∈ keys, key ∉ before.map (·.1)

theorem fresh_cons (key : String) (value : Value) (keys : List String) :
    Fresh before (key :: keys) ↔
      key ∉ before.map (·.1) ∧ Fresh (before ++ [(key, value)]) keys := by
  simp only [Fresh, List.nodup_cons, List.forall_mem_cons, List.map_append, List.mem_append,
    List.map_cons, List.map_nil, List.mem_singleton, not_or, forall_and]
  constructor
  · rintro ⟨⟨hkey, hnodup⟩, hnew, hrest⟩
    exact ⟨hnew, hnodup, hrest, fun other hother heq => hkey (heq ▸ hother)⟩
  · rintro ⟨hnew, hnodup, hrest, hne⟩
    exact ⟨⟨fun hmem => hne key hmem rfl, hnodup⟩, hnew, hrest⟩

/-- What comes after a member of a map, up to its end. -/
theorem run_mapRest (hmembers : ∀ member ∈ members, Reads member.2.1 member.2.2)
    {last : List Lexeme} (hlast : last = [] ∨ last = [.comma]) {ts : List Token}
    (hts : ts.map Token.lexeme =
      members.flatMap (.comma :: memberLexemes ·) ++ (last ++ [.closeBrace])) :
    Outcome ((∀ member ∈ members, member.2.2.KeysDistinct) ∧ Fresh before (members.map (·.1)))
      (run ⟨stack, .mapRest opened before⟩ ts)
      (complete stack (.map (before ++ derivedMembers members))) := by
  induction members generalizing before ts with
  | nil =>
    have hgood : (∀ member ∈ ([] : List (String × List Lexeme × Value)),
        member.2.2.KeysDistinct) ∧ Fresh before [] := ⟨nofun, .nil, nofun⟩
    rcases hlast with rfl | rfl
    · obtain ⟨token, rfl, htoken⟩ := List.map_eq_singleton_iff.mp hts
      refine .of_eq ?_ hgood
      simp [run_singleton, step, htoken, derivedMembers]
    · obtain ⟨comma, more, rfl, hcomma, hmore⟩ := List.map_eq_cons_iff.mp hts
      obtain ⟨token, rfl, htoken⟩ := List.map_eq_singleton_iff.mp hmore
      refine .of_eq ?_ hgood
      rw [run_cons ⟨stack, .key opened before⟩ (by simp [step, hcomma])]
      simp [run_singleton, step, htoken, derivedMembers]
  | cons member members ih =>
    obtain ⟨hreads, hrest⟩ := List.forall_mem_cons.mp hmembers
    rw [List.flatMap_cons, List.append_assoc, List.cons_append] at hts
    obtain ⟨comma, more, rfl, hcomma, hmore⟩ := List.map_eq_cons_iff.mp hts
    obtain ⟨first, rest, rfl, hfirst, hafter⟩ := List.map_eq_append_iff.mp hmore
    rw [run_cons ⟨stack, .key opened before⟩ (by simp [step, hcomma])]
    have hboth := (hreads.member stack opened before hfirst).append (ih _ hrest hafter)
    rw [List.append_assoc] at hboth
    refine hboth.congr ?_
    rw [List.forall_mem_cons, List.map_cons, fresh_cons before member.1 member.2.2]
    exact and_and_and_comm

end

/-- Derived values are read, and refused exactly if keys repeat. -/
theorem Derives.reads {lexemes : List Lexeme} {value : Value} (h : Derives lexemes value) :
    Reads lexemes value := by
  induction h with
  | string text =>
    intro stack ts hts
    obtain ⟨token, rfl, htoken⟩ := List.map_eq_singleton_iff.mp hts
    refine .of_eq ?_ (.string text)
    simp [run_singleton, step, enter, htoken]
  | @list items inner hitems hinner ih =>
    intro stack ts hts
    obtain ⟨token, more, rfl, htoken, hmore⟩ := List.map_eq_cons_iff.mp hts
    rw [run_cons ⟨stack, .item []⟩ (by simp [step, enter, htoken])]
    -- The first item comes right after the bracket and each later one after a comma.
    cases items with
    | nil =>
      rw [separated_nil hinner] at hmore
      obtain ⟨close, rfl, hclose⟩ := List.map_eq_singleton_iff.mp hmore
      refine .of_eq ?_ (.list nofun)
      simp [run_singleton, step, hclose]
    | cons item items =>
      obtain ⟨last, hlast, rfl⟩ := separated_cons hinner
      obtain ⟨hderives, hderivesRest⟩ := List.forall_mem_cons.mp hitems
      obtain ⟨hreads, hreadsRest⟩ := List.forall_mem_cons.mp ih
      rw [List.append_assoc, List.append_assoc, List.flatMap_map] at hmore
      obtain ⟨first, rest, rfl, hfirst, hafter⟩ := List.map_eq_append_iff.mp hmore
      have hrest := run_listRest stack [item.2]
        (fun item hitem => ⟨hderivesRest item hitem, hreadsRest item hitem⟩) hlast hafter
      refine ((hreads.item stack [] hderives hfirst).append hrest).congr ?_
      rw [Value.keysDistinct_list, List.forall_mem_map, List.forall_mem_cons]
  | @map members inner hmembers hinner ih =>
    intro stack ts hts
    obtain ⟨token, more, rfl, htoken, hmore⟩ := List.map_eq_cons_iff.mp hts
    rw [run_cons ⟨stack, .key token.position []⟩ (by simp [step, enter, htoken])]
    cases members with
    | nil =>
      rw [separated_nil hinner] at hmore
      obtain ⟨close, rfl, hclose⟩ := List.map_eq_singleton_iff.mp hmore
      refine .of_eq ?_ (.map .nil nofun)
      simp [run_singleton, step, hclose]
    | cons member members =>
      obtain ⟨last, hlast, rfl⟩ := separated_cons hinner
      obtain ⟨hreads, hreadsRest⟩ := List.forall_mem_cons.mp ih
      rw [List.append_assoc, List.append_assoc, List.flatMap_map] at hmore
      obtain ⟨first, rest, rfl, hfirst, hafter⟩ := List.map_eq_append_iff.mp hmore
      have hrest :=
        run_mapRest stack token.position [(member.1, member.2.2)] hreadsRest hlast hafter
      refine ((hreads.member stack token.position [] hfirst).append hrest).congr ?_
      have hfresh := fresh_cons [] member.1 member.2.2 (members.map (·.1))
      have hkeys : (derivedMembers (member :: members)).map (·.1) =
          member.1 :: members.map (·.1) := by
        simp [derivedMembers]
      have hnodup : (member.1 :: members.map (·.1)).Nodup ↔
          Fresh [] (member.1 :: members.map (·.1)) := by
        simp [Fresh]
      have hvalues : (∀ m ∈ derivedMembers (member :: members), m.2.KeysDistinct) ↔
          member.2.2.KeysDistinct ∧ ∀ m ∈ members, m.2.2.KeysDistinct := by
        rw [derivedMembers, List.forall_mem_map, List.forall_mem_cons]
      rw [← derivedMembers, Value.keysDistinct_map, hkeys, hnodup, hfresh, hvalues, and_comm]
      exact and_and_and_comm

/-! ### Read values are derived -/

/-- Items that some lexemes derive, with distinct keys inside. -/
def DerivedItems (items : List (List Lexeme × Value)) : Prop :=
  ∀ item ∈ items, Derives item.1 item.2 ∧ item.2.KeysDistinct

/-- Members that some lexemes derive, with distinct keys. -/
def DerivedMembers (members : List (String × List Lexeme × Value)) : Prop :=
  (members.map (·.1)).Nodup ∧
    ∀ member ∈ members, Derives member.2.1 member.2.2 ∧ member.2.2.KeysDistinct

theorem DerivedItems.list {items : List (List Lexeme × Value)} {inner : List Lexeme}
    (h : DerivedItems items) (hinner : Separated (items.map (·.1)) inner) :
    Derives (.openBracket :: (inner ++ [.closeBracket])) (.list (items.map (·.2))) ∧
      (Value.list (items.map (·.2))).KeysDistinct :=
  ⟨.list (fun item hitem => (h item hitem).1) hinner,
    .list (List.forall_mem_map.mpr fun item hitem => (h item hitem).2)⟩

theorem DerivedMembers.map {members : List (String × List Lexeme × Value)} {inner : List Lexeme}
    (h : DerivedMembers members) (hinner : Separated (members.map memberLexemes) inner) :
    Derives (.openBrace :: (inner ++ [.closeBrace])) (.map (derivedMembers members)) ∧
      (Value.map (derivedMembers members)).KeysDistinct := by
  refine ⟨.map (fun member hmember => (h.2 member hmember).1) hinner, .map ?_ ?_⟩
  · rw [derivedMembers, List.map_map]
    exact h.1
  · exact List.forall_mem_map.mpr fun member hmember => (h.2 member hmember).2

/-- The lexemes that open a list or map and lead to where a part of it is being read. -/
inductive Frame.ReachedBy : Frame → List Lexeme → Prop
  | list {items : List (List Lexeme × Value)} (hitems : DerivedItems items) :
    ReachedBy (.list (items.map (·.2))) (.openBracket :: items.flatMap (·.1 ++ [Lexeme.comma]))
  | map {opened : Position} {key : Key} {members : List (String × List Lexeme × Value)}
    (hmembers : DerivedMembers members) :
    ReachedBy (.map opened (derivedMembers members) key)
      (.openBrace :: (members.flatMap (memberLexemes · ++ [Lexeme.comma]) ++
        [Lexeme.string key.name, .colon]))

/-- The lexemes that lead to a stack of frames. -/
inductive StackReachedBy : List Frame → List Lexeme → Prop
  | nil : StackReachedBy [] []
  | cons {frame : Frame} {stack : List Frame} {before after : List Lexeme}
    (hstack : StackReachedBy stack before) (hframe : frame.ReachedBy after) :
    StackReachedBy (frame :: stack) (before ++ after)

/-- The lexemes inside the innermost frame that lead to where a value is not complete. -/
inductive Await.ReachedBy : Await → List Lexeme → Prop
  | value : ReachedBy .value []
  | item {items : List (List Lexeme × Value)} (hitems : DerivedItems items) :
    ReachedBy (.item (items.map (·.2))) (.openBracket :: items.flatMap (·.1 ++ [Lexeme.comma]))
  | key {opened : Position} {members : List (String × List Lexeme × Value)}
    (hmembers : DerivedMembers members) :
    ReachedBy (.key opened (derivedMembers members))
      (.openBrace :: members.flatMap (memberLexemes · ++ [Lexeme.comma]))
  | colon {opened : Position} {key : Key} {members : List (String × List Lexeme × Value)}
    (hmembers : DerivedMembers members) :
    ReachedBy (.colon opened (derivedMembers members) key)
      (.openBrace :: (members.flatMap (memberLexemes · ++ [Lexeme.comma]) ++
        [Lexeme.string key.name]))
  | listRest {items : List (List Lexeme × Value)} {last : List Lexeme × Value}
    (hitems : DerivedItems (items ++ [last])) :
    ReachedBy (.listRest ((items ++ [last]).map (·.2)))
      (.openBracket :: (items.flatMap (·.1 ++ [Lexeme.comma]) ++ last.1))
  | mapRest {opened : Position} {members : List (String × List Lexeme × Value)}
    {last : String × List Lexeme × Value} (hmembers : DerivedMembers (members ++ [last])) :
    ReachedBy (.mapRest opened (derivedMembers (members ++ [last])))
      (.openBrace :: (members.flatMap (memberLexemes · ++ [Lexeme.comma]) ++ memberLexemes last))

/-- The invariant of the parser: the lexemes that lead to a state. -/
inductive State.ReachedBy : State → List Lexeme → Prop
  | inside {stack : List Frame} {await : Await} {before after : List Lexeme}
    (hstack : StackReachedBy stack before) (hawait : await.ReachedBy after) :
    ReachedBy ⟨stack, await⟩ (before ++ after)
  | finish {lexemes : List Lexeme} {value : Value} (hvalue : Derives lexemes value)
    (hkeys : value.KeysDistinct) : ReachedBy ⟨[], .finish value⟩ lexemes

theorem reachedBy_start : State.start.ReachedBy [] :=
  .inside .nil .value

variable {stack} {before : List Lexeme} {next : State}

/-- A complete value goes where its frame was waiting for it. -/
theorem reachedBy_complete (hstack : StackReachedBy stack before) {lexemes : List Lexeme}
    {value : Value} (hvalue : Derives lexemes value) (hkeys : value.KeysDistinct)
    (h : complete stack value = .ok next) : next.ReachedBy (before ++ lexemes) := by
  cases hstack with
  | nil =>
    cases h
    exact .finish hvalue hkeys
  | @cons frame stack before after hstack hframe =>
    cases hframe with
    | @list items hitems =>
      cases h
      have hall : DerivedItems (items ++ [(lexemes, value)]) :=
        List.forall_mem_append.mpr ⟨hitems, List.forall_mem_singleton.mpr ⟨hvalue, hkeys⟩⟩
      have hawait := Await.ReachedBy.listRest hall
      rw [List.map_append] at hawait
      rw [List.append_assoc]
      exact .inside hstack hawait
    | @map opened key members hmembers =>
      rw [complete] at h
      split at h
      · cases h
      rename_i hnew
      cases h
      have hkey : key.name ∉ members.map (·.1) := by
        rw [isSome_lookup_iff, derivedMembers, List.map_map] at hnew
        exact hnew
      have hall : DerivedMembers (members ++ [(key.name, lexemes, value)]) := by
        constructor
        · rw [List.map_append, List.map_singleton, ← List.concat_eq_append, List.nodup_concat]
          exact ⟨hkey, hmembers.1⟩
        · rw [List.forall_mem_append, List.forall_mem_singleton]
          exact ⟨hmembers.2, hvalue, hkeys⟩
      have hawait : (Await.mapRest opened _).ReachedBy _ := .mapRest hall
      rw [derivedMembers, List.map_append] at hawait
      have hlexemes : before ++ (Lexeme.openBrace :: (members.flatMap
          (memberLexemes · ++ [Lexeme.comma]) ++ [Lexeme.string key.name, .colon])) ++ lexemes =
          before ++ (Lexeme.openBrace :: (members.flatMap (memberLexemes · ++ [Lexeme.comma]) ++
            memberLexemes (key.name, lexemes, value))) := by
        simp [memberLexemes]
      rw [hlexemes]
      exact .inside hstack hawait

/-- A value starts with its first token. -/
theorem reachedBy_enter (hstack : StackReachedBy stack before) {token : Token}
    (h : enter stack token = .ok next) : next.ReachedBy (before ++ [token.lexeme]) := by
  unfold enter at h
  split at h
  · rename_i hlexeme
    cases h
    rw [hlexeme]
    have hnone : DerivedMembers [] := ⟨.nil, nofun⟩
    exact .inside hstack (.key hnone)
  · rename_i hlexeme
    cases h
    rw [hlexeme]
    have hnone : DerivedItems [] := nofun
    exact .inside hstack (.item hnone)
  · rename_i text hlexeme
    rw [hlexeme]
    exact reachedBy_complete hstack (.string text) (.string text) h
  · cases h

/-- **One step of the parser keeps the invariant.** -/
theorem State.ReachedBy.step {state : State} {lexemes : List Lexeme}
    (hstate : state.ReachedBy lexemes) {token : Token} (htoken : token.lexeme ≠ .finish)
    (h : Entry.step state token = .ok next) :
    next.ReachedBy (lexemes ++ [token.lexeme]) := by
  cases hstate with
  | finish hvalue hkeys =>
    simp only [Entry.step] at h
    cases h
  | @inside stack await before after hstack hawait =>
    cases hawait with
    | value =>
      rw [List.append_nil]
      exact reachedBy_enter hstack h
    | @item items hitems =>
      simp only [Entry.step] at h
      split at h
      · rename_i hlexeme
        rw [List.append_assoc, List.cons_append, hlexeme]
        obtain ⟨hderives, hkeys⟩ := hitems.list (separated_flatMap Prod.fst items)
        exact reachedBy_complete hstack hderives hkeys h
      · exact reachedBy_enter (.cons hstack (.list hitems)) h
    | @key opened members hmembers =>
      simp only [Entry.step] at h
      split at h
      · rename_i hlexeme
        rw [List.append_assoc, List.cons_append, hlexeme]
        obtain ⟨hderives, hkeys⟩ := hmembers.map (separated_flatMap memberLexemes members)
        exact reachedBy_complete hstack hderives hkeys h
      · rename_i name hlexeme
        cases h
        rw [List.append_assoc, List.cons_append, hlexeme]
        exact .inside hstack (.colon hmembers)
      · cases h
    | @colon opened key members hmembers =>
      simp only [Entry.step] at h
      split at h
      · rename_i hlexeme
        cases h
        have hframe : (Frame.map opened _ key).ReachedBy _ := .map hmembers
        have hinside := State.ReachedBy.inside (.cons hstack hframe) .value
        rw [hlexeme]
        simpa using hinside
      · cases h
    | @listRest items last hitems =>
      simp only [Entry.step] at h
      split at h
      · rename_i hlexeme
        cases h
        have hinside := State.ReachedBy.inside hstack (.item hitems)
        rw [hlexeme]
        simpa using hinside
      · rename_i hlexeme
        rw [List.append_assoc, List.cons_append, hlexeme]
        obtain ⟨hderives, hkeys⟩ := hitems.list (separated_concat Prod.fst items last)
        exact reachedBy_complete hstack hderives hkeys h
      · cases h
    | @mapRest opened members last hmembers =>
      simp only [Entry.step] at h
      split at h
      · rename_i hlexeme
        cases h
        have hawait : (Await.key opened _).ReachedBy _ := .key hmembers
        have hinside := State.ReachedBy.inside hstack hawait
        rw [hlexeme]
        simpa using hinside
      · rename_i hlexeme
        rw [List.append_assoc, List.cons_append, hlexeme]
        obtain ⟨hderives, hkeys⟩ := hmembers.map (separated_concat memberLexemes members last)
        exact reachedBy_complete hstack hderives hkeys h
      · cases h
      · cases h

/-- What leads to a state after a run of tokens. -/
theorem State.ReachedBy.run {state : State} {lexemes : List Lexeme}
    (hstate : state.ReachedBy lexemes) {ts : List Token}
    (hts : ∀ token ∈ ts, token.lexeme ≠ .finish) (h : Entry.run state ts = .ok next) :
    next.ReachedBy (lexemes ++ ts.map Token.lexeme) := by
  induction ts generalizing state lexemes with
  | nil =>
    cases h
    rwa [List.map_nil, List.append_nil]
  | cons token ts ih =>
    obtain ⟨htoken, hrest⟩ := List.forall_mem_cons.mp hts
    obtain ⟨middle, hstep, h⟩ := bind_eq_ok.mp h
    have hreached := ih (hstate.step htoken hstep) hrest h
    rwa [List.append_assoc] at hreached

/-! ### Entries -/

/-- The end of an entry is taken only after a complete value. -/
theorem step_finish_eq_ok {state : State} {token : Token} (htoken : token.lexeme = .finish)
    (h : step state token = .ok next) :
    ∃ value, state.await = .finish value ∧ next = ⟨[], .finish value⟩ := by
  obtain ⟨stack, await⟩ := state
  cases await with
  | finish value =>
    simp only [step, htoken] at h
    cases h
    exact ⟨value, rfl, rfl⟩
  | _ => simp [step, enter, htoken] at h

/-- Reading an entry takes its tokens before the end to a complete value. -/
theorem parseTokens_append {body : List Token} {last : Token} (hlast : last.lexeme = .finish)
    {value : Value} : parseTokens (body ++ [last]) = .ok value ↔
      ∃ state, run .start body = .ok state ∧ state.await = .finish value := by
  rw [parseTokens, run_append]
  constructor
  · intro h
    obtain ⟨final, hrun, hvalue⟩ := bind_eq_ok.mp h
    obtain ⟨state, hbody, hstep⟩ := bind_eq_ok.mp hrun
    rw [run_singleton] at hstep
    obtain ⟨found, hawait, rfl⟩ := step_finish_eq_ok hlast hstep
    cases hvalue
    exact ⟨state, hbody, hawait⟩
  · rintro ⟨⟨stack, await⟩, hbody, rfl⟩
    rw [hbody]
    simp only [bind, Except.bind, run, step, hlast]
    rfl

/-- The tokens of a value with distinct keys are read as the value. -/
theorem Derives.run_start {body : List Token} {value : Value}
    (h : Derives (body.map Token.lexeme) value) (hkeys : value.KeysDistinct) :
    run .start body = .ok ⟨[], .finish value⟩ :=
  (h.reads [] body rfl).1 hkeys

theorem derives_of_run {body : List Token} (hbody : ∀ token ∈ body, token.lexeme ≠ .finish)
    {state : State} {value : Value} (h : run .start body = .ok state)
    (hawait : state.await = .finish value) :
    Derives (body.map Token.lexeme) value ∧ value.KeysDistinct := by
  have hreached := reachedBy_start.run hbody h
  rw [List.nil_append] at hreached
  generalize body.map Token.lexeme = lexemes at hreached ⊢
  cases hreached with
  | inside hstack hinside =>
    -- Inside a value it is never the end that may come next.
    subst hawait
    cases hinside
  | finish hvalue hkeys =>
    cases hawait
    exact ⟨hvalue, hkeys⟩

/-- Tokens with an end after them are read as the values with distinct keys that they derive. -/
theorem parseTokens_concat_iff {body : List Token} (hbody : ∀ token ∈ body, token.lexeme ≠ .finish)
    {place : Position} {value : Value} : parseTokens (body ++ [⟨.finish, place⟩]) = .ok value ↔
      Derives (body.map Token.lexeme) value ∧ value.KeysDistinct := by
  rw [parseTokens_append rfl]
  constructor
  · rintro ⟨state, hrun, hawait⟩
    exact derives_of_run hbody hrun hawait
  · rintro ⟨hvalue, hkeys⟩
    exact ⟨_, hvalue.run_start hkeys, rfl⟩

theorem ne_finish_of_mem_placed (start : Position) {rest : List Char} {pieces : List (List Char)}
    (h : Pieces rest pieces) : ∀ token ∈ placed start pieces, token.lexeme ≠ .finish := by
  intro token htoken
  obtain ⟨before, piece, after, -, hpiece, hlexeme, -⟩ := exists_of_mem_placed h htoken
  exact (lexeme?_of_isPiece hpiece hlexeme).2.2.1

/-- The entry of a chunk, from the pieces of its text. -/
theorem parse_chunk_eq_ok_iff {chunk : Chunk} {parsed : Parsed} :
    chunk.parse = .ok parsed ↔ parsed.line = chunk.line ∧ ∃ pieces, chunk.text = pieces.flatten ∧
      Pieces [] pieces ∧ Derives (pieces.filterMap lexeme?) parsed.value ∧
        parsed.value.KeysDistinct := by
  have htokens : ∀ {ts}, chunk.tokens = .ok ts ↔ tokens ⟨chunk.line, 1⟩ chunk.text = .ok ts := by
    intro ts
    rw [Chunk.tokens]
    split <;> simp_all
  rw [Chunk.parse, bind_eq_ok]
  constructor
  · rintro ⟨ts, hts, h⟩
    obtain ⟨value, hvalue, h⟩ := bind_eq_ok.mp h
    cases h
    obtain ⟨pieces, htext, hpieces, rfl⟩ := tokens_eq_ok_iff.mp (htokens.mp hts)
    rw [parseTokens_concat_iff (ne_finish_of_mem_placed _ hpieces), map_lexeme_placed] at hvalue
    exact ⟨rfl, pieces, htext, hpieces, hvalue⟩
  · rintro ⟨hline, pieces, htext, hpieces, hvalue⟩
    refine ⟨_, htokens.mpr (tokens_eq_ok_iff.mpr ⟨pieces, htext, hpieces, rfl⟩), ?_⟩
    rw [← map_lexeme_placed ⟨chunk.line, 1⟩] at hvalue
    rw [bind_of_eq_ok ((parseTokens_concat_iff (ne_finish_of_mem_placed _ hpieces)).mpr hvalue),
      ← hline]
    rfl

/-- **An entry is read exactly if its tokens before the end derive a value in which the keys of
every map are distinct, and then they derive no other value.** -/
theorem parseTokens_eq_ok_iff {start : Position} {text : List Char} {ts : List Token}
    (h : tokens start text = .ok ts) :
    ∃ (body : List Token) (last : Token), ts = body ++ [last] ∧ last.lexeme = .finish ∧
      (∀ token ∈ body, token.lexeme ≠ .finish) ∧ ∀ value,
        (parseTokens ts = .ok value ↔
          Derives (body.map Token.lexeme) value ∧ value.KeysDistinct) ∧
        (parseTokens ts = .ok value →
          ∀ other, Derives (body.map Token.lexeme) other → other = value) := by
  obtain ⟨pieces, rfl, hpieces, rfl⟩ := tokens_eq_ok_iff.mp h
  have hbody := ne_finish_of_mem_placed start hpieces
  refine ⟨_, _, rfl, rfl, hbody, fun value => ⟨parseTokens_concat_iff hbody, ?_⟩⟩
  intro hparse other hother
  obtain ⟨state, hrun, hawait⟩ := (parseTokens_append rfl).mp hparse
  by_cases hkeys : other.KeysDistinct
  · obtain rfl := Except.ok.inj ((hother.run_start hkeys).symm.trans hrun)
    cases hawait
    rfl
  · obtain ⟨e, he⟩ := (hother.reads [] _ rfl).2 hkeys
    have hrun : run ⟨[], .value⟩ _ = .ok state := hrun
    rw [he] at hrun
    cases hrun

/-- An entry with a comma before the end of a list and of a map. -/
def commas : List Char := "['a', \x7b'b': [],\x7d,]".toList

/-- The tokens of `commas`. -/
def commaTokens : List Token :=
  [⟨.openBracket, ⟨1, 1⟩⟩, ⟨.string "a", ⟨1, 2⟩⟩, ⟨.comma, ⟨1, 5⟩⟩, ⟨.openBrace, ⟨1, 7⟩⟩,
    ⟨.string "b", ⟨1, 8⟩⟩, ⟨.colon, ⟨1, 11⟩⟩, ⟨.openBracket, ⟨1, 13⟩⟩, ⟨.closeBracket, ⟨1, 14⟩⟩,
    ⟨.comma, ⟨1, 15⟩⟩, ⟨.closeBrace, ⟨1, 16⟩⟩, ⟨.comma, ⟨1, 17⟩⟩, ⟨.closeBracket, ⟨1, 18⟩⟩,
    ⟨.finish, ⟨1, 19⟩⟩]

theorem tokens_commas : tokens ⟨1, 1⟩ commas = .ok commaTokens := by
  decide +kernel

/-- The entry is read, so its tokens derive its value. -/
theorem parseTokens_commas_iff :
    parseTokens commaTokens = .ok (.list [.string "a", .map [("b", .list [])]]) ∧
      ∃ (body : List Token) (last : Token), commaTokens = body ++ [last] ∧ last.lexeme = .finish ∧
        (∀ token ∈ body, token.lexeme ≠ .finish) ∧ ∀ value,
          (parseTokens commaTokens = .ok value ↔
            Derives (body.map Token.lexeme) value ∧ value.KeysDistinct) ∧
          (parseTokens commaTokens = .ok value →
            ∀ other, Derives (body.map Token.lexeme) other → other = value) :=
  ⟨rfl, parseTokens_eq_ok_iff tokens_commas⟩

end RpcSchema.Entry
