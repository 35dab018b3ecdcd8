import RpcSchema.Proofs.Spelling

/-!
# Legal identifiers

An identifier of the target language is a word that the language does not keep for itself. It keeps
some words that have no meaning yet, and of these only a few are escaped. All of them are small but
one, so names in Pascal case are always legal. Names in snake case are legal unless they are the
lone underscore or one of the words that are kept but not escaped.

## Main definitions

* `reservedWords` — the words that the target language keeps for itself
* `IsIdentifier` — a legal identifier
* `IsTypeName` — a legal name of a type or a variant

## Main results

* `isIdentifier_memberName_iff` — which names of members are legal
* `isTypeName_typeName`, `isTypeName_variantName`, `IsTypeName.append_pascalCase` — names of types
  and variants always are
-/

namespace RpcSchema.Naming

/-! ### Identifiers -/

/-- The words that the target language keeps for itself, those with a meaning first. -/
def reservedWords : List String :=
  ["as", "async", "await", "break", "const", "continue", "crate", "dyn", "else",
   "enum", "extern", "false", "fn", "for", "if", "impl",
   "in", "let", "loop", "match", "mod", "move", "mut",
   "pub", "ref", "return", "self", "Self", "static",
   "struct", "super", "trait", "true", "type", "unsafe",
   "use", "where", "while",
   "abstract", "become", "box", "do", "final", "macro", "override",
   "priv", "try", "typeof", "unsized", "virtual", "yield"]

/-- The words among them that are not escaped. -/
def unescapedWords : List String :=
  ["abstract", "become", "do", "final", "macro", "override", "priv", "typeof", "unsized", "virtual"]

/-- A legal identifier of the target language. -/
structure IsIdentifier (name : String) : Prop where
  isWord : IsWord name.toList
  ne_underscore : name ≠ "_"
  notMem : name ∉ reservedWords

/-- The words that are kept are the escaped ones and the others. -/
theorem mem_reservedWords_iff {word : String} :
    word ∈ reservedWords ↔ word ∈ keywords ∨ word ∈ unescapedWords := by
  have hperm : reservedWords.Perm (keywords ++ unescapedWords) := by decide
  rw [hperm.mem_iff, List.mem_append]

theorem isLower_of_unescaped {word : String} (h : word ∈ unescapedWords) :
    ∀ c ∈ word.toList, c.isLower := by
  have hall : ∀ word ∈ unescapedWords, word.toList.all Char.isLower := by decide
  exact List.all_eq_true.mp (hall word h)

theorem notMem_keywords_of_unescaped : ∀ word ∈ unescapedWords, word ∉ keywords := by
  decide

theorem getLast?_of_reserved : ∀ word ∈ reservedWords, word.toList.getLast? ≠ some '_' := by
  decide

/-- All words that are kept are small but one. -/
theorem eq_self_of_capital : ∀ word ∈ reservedWords,
    word.toList.head?.any Char.isUpper → word = "Self" := by
  decide

/-- No keyword is left when keywords are escaped. -/
theorem escapeKeyword_notMem (name : String) : escapeKeyword name ∉ keywords := by
  rw [escapeKeyword]
  split
  · intro hmem
    exact getLast?_of_reserved _ (mem_reservedWords_iff.mpr (.inl hmem)) (by simp)
  · rename_i hname
    simpa using hname

/-! ### Members -/

theorem IsWord.concat_underscore {cs : List Char} (h : IsWord cs) : IsWord (cs ++ ['_']) := by
  obtain ⟨c, rest, rfl, hc, hrest⟩ := h
  have hend : ∀ d ∈ ['_'], IsWordChar d := List.forall_mem_singleton.mpr (.inr rfl)
  exact ⟨c, _, rfl, hc, List.forall_mem_append.mpr ⟨hrest, hend⟩⟩

/-- An escaped word is legal, and so is every other one that is not kept, except the lone
underscore. -/
theorem isIdentifier_escapeKeyword_iff {name : String} (h : IsWord name.toList) :
    IsIdentifier (escapeKeyword name) ↔ name ≠ "_" ∧ name ∉ unescapedWords := by
  by_cases hname : name ∈ keywords
  · have hescaped : (escapeKeyword name).toList = name.toList ++ ['_'] := by
      rw [escapeKeyword, if_pos (List.contains_iff_mem.mpr hname), String.toList_append]
      rfl
    have hidentifier : IsIdentifier (escapeKeyword name) := by
      refine ⟨hescaped ▸ h.concat_underscore, fun hlone => ?_, fun hmem => ?_⟩
      · obtain ⟨c, rest, hcons, -⟩ := h
        rw [hlone, hcons] at hescaped
        simp at hescaped
      · exact getLast?_of_reserved _ hmem (by rw [hescaped, List.getLast?_concat])
    refine iff_of_true hidentifier ⟨?_, fun hmem => notMem_keywords_of_unescaped name hmem hname⟩
    rintro rfl
    exact getLast?_of_reserved _ (mem_reservedWords_iff.mpr (.inl hname)) rfl
  · rw [escapeKeyword, if_neg (by simpa using hname)]
    have hreserved : name ∈ reservedWords ↔ name ∈ unescapedWords := by
      rw [mem_reservedWords_iff, or_iff_right hname]
    constructor
    · rintro ⟨-, hlone, hmem⟩
      exact ⟨hlone, mt hreserved.mpr hmem⟩
    · rintro ⟨hlone, hmem⟩
      exact ⟨h, hlone, mt hreserved.mp hmem⟩

theorem exists_cons_of_isSpelled {first : Char → Bool} {name : String}
    (h : Schema.isSpelled first name) : ∃ c cs, name.toList = c :: cs ∧ first c ∧
      ∀ d ∈ cs, d.isAlphanum ∨ d = '-' ∨ d = '_' := by
  unfold Schema.isSpelled at h
  split at h
  · cases h
  · rename_i c cs hname
    obtain ⟨hc, hcs⟩ := Bool.and_eq_true_iff.mp h
    exact ⟨c, cs, hname, hc, fun d hd => isNameChar_iff.mp (List.all_eq_true.mp hcs d hd)⟩

theorem exists_cons_of_isFieldName {name : String} (h : Schema.isFieldName name) :
    ∃ c cs, name.toList = c :: cs ∧ (c.isAlpha ∨ c = '_') ∧
      ∀ d ∈ cs, d.isAlphanum ∨ d = '-' ∨ d = '_' := by
  obtain ⟨c, cs, hname, hc, hcs⟩ := exists_cons_of_isSpelled h
  exact ⟨c, cs, hname, by simpa [Schema.isLetter] using hc, hcs⟩

theorem isFieldName_of_isDefinitionName {name : String} (h : Schema.isDefinitionName name) :
    Schema.isFieldName name := by
  unfold Schema.isDefinitionName Schema.isSpelled at h
  unfold Schema.isFieldName Schema.isSpelled
  split at h
  · cases h
  · rename_i c cs hname
    obtain ⟨hc, hcs⟩ := Bool.and_eq_true_iff.mp h
    simp [hc, hcs]

/-- Nothing is left out in snake case. -/
theorem snakeAfter_ne_nil {before : Option Char} {c : Char} {cs : List Char} (hc : IsWordChar c) :
    snakeAfter before (c :: cs) ≠ [] := by
  by_cases hupper : c.isUpper
  · rw [snakeAfter_capital hupper]
    exact List.append_ne_nil_of_right_ne_nil _ (List.cons_ne_nil _ _)
  · rw [snakeAfter_kept hc hupper]
    exact List.cons_ne_nil _ _

/-- Only the lone underscore stays one. -/
theorem snakeCase_eq_underscore_iff {name : String} (h : Schema.isFieldName name) :
    snakeCase name = "_" ↔ name = "_" := by
  refine ⟨fun hsnake => ?_, ?_⟩
  · obtain ⟨c, cs, hname, hc, hcs⟩ := exists_cons_of_isFieldName h
    have hne : c ≠ '-' := by
      rintro rfl
      exact absurd hc (by decide)
    have hchars : snakeAfter none (c :: underscored cs) = ['_'] := by
      have hlist := String.toList_inj.mpr hsnake
      rw [snakeCase, String.toList_ofList, hname, snakeChars, List.map_cons, if_neg hne] at hlist
      exact hlist
    have hword : IsWordChar c := hc.imp isAlphanum_of_isAlpha id
    by_cases hupper : c.isUpper
    · rw [snakeAfter_capital hupper] at hchars
      have halphanum := isAlphanum_toLower (isAlphanum_of_isUpper hupper)
      exact absurd (List.cons.inj hchars).1 (ne_underscore halphanum)
    · rw [snakeAfter_kept hword hupper] at hchars
      obtain ⟨rfl, hrest⟩ := List.cons.inj hchars
      cases cs with
      | nil => exact String.toList_inj.mp hname
      | cons d ds =>
        have hd := isWordChar_underscored hcs _ List.mem_cons_self
        exact absurd hrest (snakeAfter_ne_nil hd)
  · rintro rfl
    rfl

/-- The identifier of a member is legal unless the name is the lone underscore or a spelling of a
word that is kept but not escaped. -/
theorem isIdentifier_memberName_iff {name : String} (h : Schema.isFieldName name) :
    IsIdentifier (memberName name) ↔
      name ≠ "_" ∧ ∀ word ∈ unescapedWords, name ∉ spellings word := by
  have hword : IsWord (snakeCase name).toList := by
    obtain ⟨c, cs, hname, hc, hcs⟩ := exists_cons_of_isFieldName h
    rw [snakeCase, String.toList_ofList, hname]
    exact isWord_snakeChars hc hcs
  have hspelled : snakeCase name ∈ unescapedWords ↔
      ∃ word ∈ unescapedWords, name ∈ spellings word := by
    constructor
    · intro hmem
      refine ⟨_, hmem, ?_⟩
      exact (snakeCase_eq_iff (plainName_of_isFieldName h) (isLower_of_unescaped hmem)).mp rfl
    · rintro ⟨word, hmem, hname⟩
      rwa [(snakeCase_eq_iff (plainName_of_isFieldName h) (isLower_of_unescaped hmem)).mpr hname]
  rw [memberName, isIdentifier_escapeKeyword_iff hword, hspelled, Ne,
    snakeCase_eq_underscore_iff h]
  simp only [not_exists, not_and]

/-! ### Types and variants -/

/-- A name that starts with a capital and goes on with letters, digits and underscores. -/
def IsCapitalized (cs : List Char) : Prop :=
  ∃ c rest, cs = c :: rest ∧ c.isUpper ∧ ∀ d ∈ rest, IsWordChar d

/-- A legal name of a type or a variant. -/
structure IsTypeName (name : String) : Prop where
  isCapitalized : IsCapitalized name.toList
  ne_self : name ≠ "Self"

theorem IsCapitalized.isWord {cs : List Char} (h : IsCapitalized cs) : IsWord cs := by
  obtain ⟨c, rest, hcs, hc, hrest⟩ := h
  exact ⟨c, rest, hcs, .inl (isAlpha_of_isUpper hc), hrest⟩

theorem IsCapitalized.append {cs ds : List Char} (h : IsCapitalized cs)
    (hds : ∀ d ∈ ds, IsWordChar d) : IsCapitalized (cs ++ ds) := by
  obtain ⟨c, rest, rfl, hc, hrest⟩ := h
  exact ⟨c, _, rfl, hc, List.forall_mem_append.mpr ⟨hrest, hds⟩⟩

/-- Names of types are legal identifiers. -/
theorem IsTypeName.isIdentifier {name : String} (h : IsTypeName name) : IsIdentifier name := by
  obtain ⟨hcapitalized, hself⟩ := h
  refine ⟨hcapitalized.isWord, ?_, fun hmem => ?_⟩
  · rintro rfl
    obtain ⟨c, rest, hcons, hc, -⟩ := hcapitalized
    obtain rfl := (List.cons.inj hcons).1
    exact absurd hc (by decide)
  · obtain ⟨c, rest, hcons, hc, -⟩ := hcapitalized
    exact hself (eq_self_of_capital name hmem (by simp [hcons, hc]))

theorem isTypeName_escapeKeyword {name : String} (h : IsCapitalized name.toList) :
    IsTypeName (escapeKeyword name) := by
  have hcapitalized : IsCapitalized (escapeKeyword name).toList := by
    rw [escapeKeyword]
    split
    · rw [String.toList_append]
      exact h.append (List.forall_mem_singleton.mpr (.inr rfl))
    · exact h
  refine ⟨hcapitalized, fun hself => escapeKeyword_notMem name ?_⟩
  rw [hself]
  decide

/-- The Pascal case of a name that starts with a letter or a digit. -/
theorem exists_cons_pascalCase {name : String} {c : Char} {cs : List Char}
    (hname : name.toList = c :: cs) (hc : c.isAlphanum)
    (hcs : ∀ d ∈ cs, d.isAlphanum ∨ d = '-' ∨ d = '_') :
    ∃ rest, (pascalCase name).toList = c.toUpper :: rest ∧ ∀ d ∈ rest, IsWordChar d := by
  obtain ⟨rest, hrest⟩ := pascalChars_cons hc hcs
  have hpascal := isAlphanum_of_mem_pascalChars (List.forall_mem_cons.mpr ⟨.inl hc, hcs⟩)
  rw [hrest] at hpascal
  rw [pascalCase, String.toList_ofList, hname]
  exact ⟨rest, hrest, fun d hd => .inl (hpascal d (List.mem_cons_of_mem _ hd))⟩

theorem isCapitalized_pascalCase {name : String} (h : Schema.isDefinitionName name) :
    IsCapitalized (pascalCase name).toList := by
  obtain ⟨c, cs, hname, hc, hcs⟩ := exists_cons_of_isSpelled h
  obtain ⟨rest, hpascal, hrest⟩ := exists_cons_pascalCase hname (isAlphanum_of_isAlpha hc) hcs
  exact ⟨_, rest, hpascal, isUpper_toUpper hc, hrest⟩

theorem isTypeName_typeName {name : String} (h : Schema.isDefinitionName name) :
    IsTypeName (typeName name) :=
  isTypeName_escapeKeyword (isCapitalized_pascalCase h)

/-- The types of an event. -/
theorem isTypeName_event {name ending : String} (h : Schema.isDefinitionName name)
    (hending : ending ∈ ["Event", "Func", "Signal"]) : IsTypeName (pascalCase name ++ ending) := by
  have hall : ∀ ending ∈ ["Event", "Func", "Signal"], ending.toList.all Char.isAlphanum ∧
      ¬ending.toList <:+ "Self".toList := by
    decide
  obtain ⟨halphanum, hsuffix⟩ := hall ending hending
  refine ⟨?_, fun hself => hsuffix ?_⟩
  · rw [String.toList_append]
    exact (isCapitalized_pascalCase h).append fun d hd => .inl (List.all_eq_true.mp halphanum d hd)
  · rw [← hself, String.toList_append]
    exact List.suffix_append _ _

/-- A label that starts with a digit gets a letter, and any other one is escaped like a type. -/
theorem isTypeName_variantName {label : String} (h : Schema.isLabel label) :
    IsTypeName (variantName label) := by
  obtain ⟨c, cs, hlabel, hc, hcs⟩ := exists_cons_of_isSpelled h
  obtain ⟨rest, hpascal, hrest⟩ := exists_cons_pascalCase hlabel hc hcs
  have hdigit : startsWithDigit (pascalCase label) = c.toUpper.isDigit := by
    rw [startsWithDigit, hpascal]
    rfl
  have hfirst := isUpper_or_isDigit_toUpper hc
  simp only [variantName, hdigit]
  split
  · have hcapitalized : ("V" ++ pascalCase label).toList = 'V' :: c.toUpper :: rest := by
      rw [String.toList_append, hpascal]
      rfl
    refine ⟨⟨'V', _, hcapitalized, rfl, List.forall_mem_cons.mpr ⟨?_, hrest⟩⟩, fun hself => ?_⟩
    · exact .inl (isAlphanum_toUpper hc)
    · rw [hself] at hcapitalized
      cases hcapitalized
  · rename_i hsmall
    exact isTypeName_escapeKeyword ⟨_, rest, hpascal, hfirst.resolve_right hsmall, hrest⟩

/-- The name for fields in place, which is made from the name of what they stand in. What is added
starts with a capital or a digit, so it cannot complete the one word to be avoided. -/
theorem IsTypeName.append_pascalCase {owner field : String} (h : IsTypeName owner)
    (hfield : PlainName field) : IsTypeName (owner ++ pascalCase field) := by
  have hchars : (pascalCase field).toList = pascalChars field.toList := String.toList_ofList
  refine ⟨?_, fun hself => ?_⟩
  · rw [String.toList_append, hchars]
    exact h.isCapitalized.append fun d hd => .inl (isAlphanum_of_mem_pascalChars hfield d hd)
  · obtain ⟨c, rest, howner, -⟩ := h.isCapitalized
    have hlist := String.toList_inj.mpr hself
    rw [String.toList_append, howner, hchars] at hlist
    cases hpascal : pascalChars field.toList with
    | nil =>
      rw [hpascal, List.append_nil, ← howner] at hlist
      exact h.ne_self (String.toList_inj.mp hlist)
    | cons d ds =>
      have hd := head?_pascalChars hfield d (by rw [hpascal]; rfl)
      rw [hpascal] at hlist
      have hletters : c :: (rest ++ d :: ds) = ['S', 'e', 'l', 'f'] := hlist
      have hmem : d ∈ ['e', 'l', 'f'] := by
        rw [← (List.cons.inj hletters).2]
        exact List.mem_append_right _ List.mem_cons_self
      have hsmall : ∀ d ∈ ['e', 'l', 'f'], ¬(d.isUpper ∨ d.isDigit) := by simp
      exact hsmall d hmem hd

end RpcSchema.Naming
