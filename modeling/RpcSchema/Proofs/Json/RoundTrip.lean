import RpcSchema.Json.Reader
import RpcSchema.Proofs.Json.Tokens
import RpcSchema.Proofs.Text.Lines

/-!
# Written values read back

The compact text of a value reads back as the value. Not every value has such a text: integers must
have words, floats must read back one by one, the keys of an object must be distinct, and no more
containers may be open at once than the reader allows. All of these are in `Fits`.

Reading goes from text to tokens to a tree, and the tree is built with a stack. `Reads` speaks of
the whole way at once, from any stack: what is left of the text completes the tree. A value is then
read by one induction, in which the text after the value is arbitrary.

## Main definitions

* `Fits` — values that their text gives back
* `Tree.of` — the tree of a value
* `Tree.Reads` — a text that completes a tree

## Main results

* `Tree.valueWithin?_of` — the tree of a value stands for it
* `Tree.parse?_compact` — the text of a value has the tree of the value
* `parse?_compact` — the text of a value reads back as the value
-/

namespace RpcSchema.Json

/-- The values that a text with at most `depth` open containers gives back. -/
inductive Fits : Nat → Json → Prop
  | null {depth} : Fits depth .null
  | bool {depth} (b : Bool) : Fits depth (.bool b)
  | int {depth} {n : Int} (h : Token.IsInteger n) : Fits depth (.int n)
  | float {depth} {x : Float} (h : Token.ReadsBack x) : Fits depth (.float x)
  | string {depth} (s : String) : Fits depth (.string s)
  | array {depth} {items : List Json} (h : ∀ item ∈ items, Fits depth item) :
    Fits (depth + 1) (.array items)
  | object {depth} {members : Members} (hkeys : (members.map (·.1)).Nodup)
    (h : ∀ m ∈ members, Fits depth m.2) : Fits (depth + 1) (.object members)

theorem Fits.mono {depth more : Nat} {value : Json} (h : Fits depth value) (hle : depth ≤ more) :
    Fits more value := by
  induction h generalizing more with
  | null => exact .null
  | bool b => exact .bool b
  | int h => exact .int h
  | float h => exact .float h
  | string s => exact .string s
  | array _ ih =>
    obtain ⟨more, rfl⟩ := Nat.exists_eq_add_of_lt (Nat.lt_of_succ_le hle)
    exact .array fun item hitem => ih item hitem (by omega)
  | object hkeys _ ih =>
    obtain ⟨more, rfl⟩ := Nat.exists_eq_add_of_lt (Nat.lt_of_succ_le hle)
    exact .object hkeys fun m hm => ih m hm (by omega)

/-- An object fits if its keys are distinct and its members fit. -/
theorem fits_object_iff {depth : Nat} {members : Members} : Fits (depth + 1) (.object members) ↔
    (members.map (·.1)).Nodup ∧ ∀ m ∈ members, Fits depth m.2 := by
  constructor
  · rintro (_ | _ | _ | _ | _ | _ | ⟨hkeys, h⟩)
    exact ⟨hkeys, h⟩
  · exact fun ⟨hkeys, h⟩ => .object hkeys h

/-! ### Members -/

theorem Members.insert_of_notMem {members : Members} {key : String} (value : Json)
    (h : key ∉ members.map (·.1)) :
    Members.insert key value members = members ++ [(key, value)] := by
  induction members with
  | nil => rfl
  | cons m rest ih =>
    rw [List.map_cons, List.mem_cons, not_or] at h
    rw [Members.insert, if_neg (Ne.symm h.1), ih h.2, List.cons_append]

/-- Setting distinct keys one after the other keeps them all. -/
theorem Members.ofList_of_nodup {pairs : Members} (h : (pairs.map (·.1)).Nodup) :
    Members.ofList pairs = pairs := by
  have hfold : ∀ before : Members, ((before ++ pairs).map (·.1)).Nodup →
      pairs.foldl (fun members pair => Members.insert pair.1 pair.2 members) before =
        before ++ pairs := by
    clear h
    induction pairs with
    | nil => simp
    | cons pair rest ih =>
      intro before hnodup
      have hnew : pair.1 ∉ before.map (·.1) := by
        rw [List.map_append, List.nodup_append] at hnodup
        exact fun hmem => hnodup.2.2 _ hmem _ (by simp) rfl
      rw [List.foldl_cons, Members.insert_of_notMem _ hnew, ih, List.append_assoc,
        List.singleton_append]
      rwa [List.append_assoc, List.singleton_append]
  exact hfold [] h

namespace Tree

/-! ### Trees of values -/

mutual

/-- The tree of a value. -/
def of : Json → Tree
  | .null => .null
  | .bool b => .bool b
  | .int n => .number (some (.int n))
  | .float x => .number (some (.float x))
  | .string s => .string (some s)
  | .array items => .array (ofItems items)
  | .object members => .object (ofMembers members)

/-- The trees of the items of an array. -/
def ofItems : List Json → List Tree
  | [] => []
  | item :: rest => of item :: ofItems rest

/-- The keys and trees of the members of an object. -/
def ofMembers : List (String × Json) → List (Option String × Tree)
  | [] => []
  | (key, value) :: rest => (some key, of value) :: ofMembers rest

end

theorem itemsWithin?_of {depth : Nat} {items : List Json}
    (h : ∀ item ∈ items, (of item).valueWithin? depth = some item) :
    itemsWithin? depth (ofItems items) = some items := by
  induction items with
  | nil => rfl
  | cons item rest ih =>
    obtain ⟨hitem, hrest⟩ := List.forall_mem_cons.mp h
    rw [ofItems, itemsWithin?, hitem, ih hrest]
    rfl

theorem membersWithin?_of {depth : Nat} {members : Members}
    (h : ∀ m ∈ members, (of m.2).valueWithin? depth = some m.2) :
    membersWithin? depth (ofMembers members) = some members := by
  induction members with
  | nil => rfl
  | cons m rest ih =>
    obtain ⟨hm, hrest⟩ := List.forall_mem_cons.mp h
    rw [ofMembers, membersWithin?, hm, ih hrest]
    rfl

/-- The tree of a value stands for it. -/
theorem valueWithin?_of {depth : Nat} {value : Json} (h : Fits depth value) :
    (of value).valueWithin? depth = some value := by
  induction h with
  | null => simp [of, valueWithin?]
  | bool b => simp [of, valueWithin?]
  | int h => simp [of, valueWithin?]
  | float h => simp [of, valueWithin?]
  | string s => simp [of, valueWithin?]
  | array _ ih => rw [of, valueWithin?, itemsWithin?_of ih, Option.map_some]
  | object hkeys _ ih =>
    rw [of, valueWithin?, membersWithin?_of ih, Option.map_some, Members.ofList_of_nodup hkeys]

/-! ### Texts that complete a tree -/

/-- A text that completes a tree, from what is open and what may come next. -/
def Reads (stack : List Frame) (await : Await) (text : List Char) (tree : Tree) : Prop :=
  ∀ fuel, text.length < fuel → (Token.allWithin? fuel text).bind (run? stack await) = some tree

theorem reads_nil (tree : Tree) : Reads [] (.next tree) [] tree := by
  intro fuel hfuel
  obtain ⟨fuel, rfl⟩ := Nat.exists_eq_add_of_lt hfuel
  rfl

theorem parse?_of_reads {text : String} {tree : Tree} (h : Reads [] .value text.toList tree) :
    parse? text = some tree :=
  h (text.toList.length + 1) (by omega)

section

variable {stack after : List Frame} {await next : Await} {text rest : List Char} {tree : Tree}

/-- One token of a text. -/
theorem Reads.step {token : Token} (htoken : Token.next? text = some (token, rest))
    (hstep : step? stack await token = some (after, next)) (h : Reads after next rest tree)
    (hblank : ∀ c ∈ text.head?, Token.isBlank c = false) (hlength : rest.length < text.length) :
    Reads stack await text tree := by
  intro fuel hfuel
  obtain ⟨fuel, rfl⟩ := Nat.exists_eq_add_of_lt hfuel
  cases text with
  | nil => exact absurd hlength (Nat.not_lt_zero _)
  | cons c cs =>
    have hdrop : (c :: cs).dropWhile Token.isBlank = c :: cs := by
      rw [List.dropWhile_cons, hblank c rfl]
      rfl
    have hrest := h ((c :: cs).length + fuel) (by omega)
    simp only [Token.allWithin?, hdrop, htoken, Option.bind_eq_bind, Option.bind_some]
    rw [← h ((c :: cs).length + fuel) (by omega)]
    cases Token.allWithin? ((c :: cs).length + fuel) rest with
    | none => rfl
    | some tokens => simp [run?, hstep]

/-- A token that is always written the same. -/
theorem Reads.word {c : Char} (cs : List Char) {token : Token}
    (htoken : ∀ rest, Token.next? (c :: (cs ++ rest)) = some (token, rest))
    (hblank : Token.isBlank c = false) (hstep : step? stack await token = some (after, next))
    (h : Reads after next rest tree) : Reads stack await (c :: (cs ++ rest)) tree := by
  refine h.step (htoken rest) hstep (by simpa using hblank) ?_
  rw [List.length_cons, List.length_append]
  omega

/-- A token of one character. -/
theorem Reads.sign {c : Char} {token : Token}
    (htoken : ∀ rest, Token.next? (c :: rest) = some (token, rest))
    (hblank : Token.isBlank c = false) (hstep : step? stack await token = some (after, next))
    (h : Reads after next rest tree) : Reads stack await (c :: rest) tree :=
  Reads.word [] htoken hblank hstep h

/-- A written string. -/
theorem Reads.quoted {s : String}
    (hstep : step? stack await (.string (some s)) = some (after, next))
    (h : Reads after next rest tree) : Reads stack await ((quoted s).toList ++ rest) tree := by
  refine h.step (Token.next?_quoted s rest) hstep ?_ ?_
  · rw [Token.toList_quoted]
    simp [Token.isBlank]
  · rw [Token.toList_quoted]
    simp
    omega

/-- A written number. -/
theorem Reads.number {n : Option Number} (htoken : Token.next? text = some (.number n, []))
    (hrest : Token.Closes rest) (hstep : step? stack await (.number n) = some (after, next))
    (h : Reads after next rest tree) : Reads stack await (text ++ rest) tree := by
  obtain ⟨c, more, rfl, hblank⟩ := Token.exists_cons_of_number htoken
  refine h.step (Token.next?_append htoken hrest) hstep (by simpa using hblank) ?_
  rw [List.length_append, List.length_cons]
  omega

/-! ### Values -/

/-- A value may come next, and when it has been read `after` is what is open. -/
inductive Opens (stack : List Frame) : Await → List Frame → Prop
  | value : Opens stack .value stack
  | item : Opens stack .item (.array [] :: stack)

theorem Opens.step_scalar (h : Opens stack await after) {token : Token} {value : Tree}
    (hscalar : scalar? token = some value) :
    step? stack await token = some (after, .next value) := by
  cases h <;> cases token <;> cases hscalar <;> rfl

theorem Opens.step_openBracket (h : Opens stack await after) :
    step? stack await .openBracket = some (after, .item) := by
  cases h <;> rfl

theorem Opens.step_openBrace (h : Opens stack await after) :
    step? stack await .openBrace = some (after, .member) := by
  cases h <;> rfl

end

/-- A value whose text is read wherever a value may come next. -/
def Readable (value : Json) : Prop :=
  ∀ {stack await after rest tree}, Opens stack await after → Token.Closes rest →
    Reads after (.next (of value)) rest tree →
    Reads stack await (value.compact.toList ++ rest) tree

section

variable {stack : List Frame} {rest : List Char} {tree : Tree}

/-- What follows one of several parts, up to a closing bracket. -/
theorem closes_parts {α : Type} (parts : List α) (text : α → List Char) {c : Char}
    (hc : c = ']' ∨ c = '\x7d') :
    Token.Closes (parts.flatMap (fun part => ',' :: text part) ++ c :: rest) := by
  cases parts with
  | nil => exact Token.closes_cons (.inr hc) _
  | cons part parts => exact Token.closes_cons (.inl rfl) _

/-- The items after the first one, up to the end of the array. -/
theorem reads_items {items : List Json} (hitems : ∀ item ∈ items, Readable item)
    (before : List Tree) (first : Tree)
    (h : Reads stack (.next (.array ((first :: before).reverse ++ ofItems items))) rest tree) :
    Reads (.array before :: stack) (.next first)
      (items.flatMap (',' :: ·.compact.toList) ++ ']' :: rest) tree := by
  induction items generalizing before first with
  | nil =>
    rw [ofItems, List.append_nil] at h
    exact h.sign (fun _ => rfl) rfl rfl
  | cons item items ih =>
    obtain ⟨hitem, hrest⟩ := List.forall_mem_cons.mp hitems
    rw [List.flatMap_cons, List.cons_append, List.cons_append, List.append_assoc]
    refine Reads.sign (fun _ => rfl) rfl rfl (hitem .value (closes_parts _ _ (.inl rfl))
      (ih hrest (first :: before) (of item) ?_))
    simpa [ofItems] using h

/-- The members after the first one, up to the end of the object. -/
theorem reads_members {members : Members} (hmembers : ∀ m ∈ members, Readable m.2)
    (before : List (Option String × Tree)) (key : Option String) (first : Tree)
    (h : Reads stack (.next (.object (((key, first) :: before).reverse ++ ofMembers members))) rest
      tree) :
    Reads (.object before key :: stack) (.next first)
      (members.flatMap (fun m => ',' :: ((quoted m.1).toList ++ ':' :: m.2.compact.toList)) ++
        '\x7d' :: rest) tree := by
  induction members generalizing before key first with
  | nil =>
    rw [ofMembers, List.append_nil] at h
    exact h.sign (fun _ => rfl) rfl rfl
  | cons m members ih =>
    obtain ⟨hm, hrest⟩ := List.forall_mem_cons.mp hmembers
    rw [List.flatMap_cons, List.cons_append, List.cons_append, List.append_assoc,
      List.append_assoc, List.cons_append]
    refine Reads.sign (fun _ => rfl) rfl rfl (Reads.quoted rfl (Reads.sign (fun _ => rfl) rfl rfl
      (hm .value (closes_parts _ _ (.inr rfl))
        (ih hrest ((key, first) :: before) (some m.1) (of m.2) ?_))))
    simpa [ofMembers] using h

end

/-! ### The text of a value -/

theorem compactItems_eq (items : List Json) : compactItems items = items.map compact := by
  induction items with
  | nil => rfl
  | cons item rest ih => rw [compactItems, ih, List.map_cons]

theorem compactMembers_eq (members : Members) :
    compactMembers members = members.map fun m => quoted m.1 ++ ":" ++ compact m.2 := by
  induction members with
  | nil => rfl
  | cons m rest ih => rw [compactMembers, ih, List.map_cons]

theorem toList_compact_array (first : Json) (rest : List Json) :
    (compact (.array (first :: rest))).toList =
      '[' :: (first.compact.toList ++ (rest.flatMap (',' :: ·.compact.toList) ++ [']'])) := by
  simp [compact, compactItems_eq, String.toList_intercalate, intercalate_cons, List.flatMap_map]

theorem toList_compact_object (first : String × Json) (rest : Members) :
    (compact (.object (first :: rest))).toList =
      '\x7b' :: ((quoted first.1).toList ++ ':' :: (first.2.compact.toList ++
        (rest.flatMap (fun m => ',' :: ((quoted m.1).toList ++ ':' :: m.2.compact.toList)) ++
          ['\x7d']))) := by
  simp [compact, compactMembers_eq, String.toList_intercalate, intercalate_cons, List.flatMap_map]

/-- The text of a value is read wherever a value may come next. -/
theorem readable {depth : Nat} {value : Json} (h : Fits depth value) : Readable value := by
  induction h with
  | null =>
    intro stack await after rest tree hopens hrest h
    exact Reads.word ['u', 'l', 'l'] (fun _ => rfl) rfl (hopens.step_scalar rfl) h
  | bool b =>
    intro stack await after rest tree hopens hrest h
    cases b with
    | false =>
      exact Reads.word ['a', 'l', 's', 'e'] (fun _ => rfl) rfl (hopens.step_scalar rfl) h
    | true => exact Reads.word ['r', 'u', 'e'] (fun _ => rfl) rfl (hopens.step_scalar rfl) h
  | int hn =>
    intro stack await after rest tree hopens hrest h
    exact h.number (Token.next?_int hn) hrest (hopens.step_scalar rfl)
  | float hx =>
    intro stack await after rest tree hopens hrest h
    exact h.number hx hrest (hopens.step_scalar rfl)
  | string s =>
    intro stack await after rest tree hopens hrest h
    exact h.quoted (hopens.step_scalar rfl)
  | @array depth items _ ih =>
    intro stack await after rest tree hopens hrest h
    cases items with
    | nil =>
      exact Reads.sign (fun _ => rfl) rfl hopens.step_openBracket (h.sign (fun _ => rfl) rfl rfl)
    | cons first items =>
      obtain ⟨hfirst, hitems⟩ := List.forall_mem_cons.mp ih
      rw [toList_compact_array, List.cons_append, List.append_assoc, List.append_assoc]
      exact Reads.sign (fun _ => rfl) rfl hopens.step_openBracket
        (hfirst .item (closes_parts _ _ (.inl rfl)) (reads_items hitems [] (of first) h))
  | @object depth members _ _ ih =>
    intro stack await after rest tree hopens hrest h
    cases members with
    | nil =>
      exact Reads.sign (fun _ => rfl) rfl hopens.step_openBrace (h.sign (fun _ => rfl) rfl rfl)
    | cons first members =>
      obtain ⟨hfirst, hmembers⟩ := List.forall_mem_cons.mp ih
      rw [toList_compact_object, List.cons_append, List.append_assoc, List.cons_append,
        List.append_assoc, List.append_assoc]
      exact Reads.sign (fun _ => rfl) rfl hopens.step_openBrace
        (Reads.quoted rfl (Reads.sign (fun _ => rfl) rfl rfl
          (hfirst .value (closes_parts _ _ (.inr rfl))
            (reads_members hmembers [] (some first.1) (of first.2) h))))

/-- The text of a value has the tree of the value. -/
theorem parse?_compact {depth : Nat} {value : Json} (h : Fits depth value) :
    parse? value.compact = some (of value) := by
  have hreads := readable h .value Token.closes_nil (reads_nil (of value))
  rw [List.append_nil] at hreads
  exact parse?_of_reads hreads

end Tree

/-- The text of a value reads back as the value. -/
theorem parse?_compact {value : Json} (h : Fits Tree.maxDepth value) :
    parse? value.compact = some value := by
  rw [parse?, Tree.parse?_compact h]
  exact Tree.valueWithin?_of h

end RpcSchema.Json
