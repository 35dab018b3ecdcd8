import Mathlib
import RpcSchema.Proofs.Naming
import RpcSchema.Proofs.Schema.Soundness
import RpcSchema.Proofs.Text.Lines

/-!
# How generated names are spelled

Schema names are made of ASCII letters and digits, hyphens and underscores. Pascal case keeps the
letters and digits of such a name and raises the first letter of each word, so what it gives starts
with a capital or a digit and has no underscore. Snake case keeps all of the name but hyphens.

A word of small letters is the snake case of three spellings and no others: itself, the same with
its first letter raised, and the same all in capitals. In every other spelling a capital starts a
word of its own, and an underscore comes before it. In Pascal case the same three are capitalized
alike, and only separators can be added to them.

The lemmas on the letter case of ASCII characters come with the whole of Mathlib only.

## Main definitions

* `IsWordChar`, `IsWord` — the characters of generated names, and names made of them
* `spellings`, `otherSpellings` — a small word as it may be written in a schema
* `SpellsOnly` — a name that has only this word, apart from separators

## Main results

* `head?_pascalChars`, `pascalChars_cons` — how names in Pascal case start
* `isWord_snakeChars` — the snake case of a name is a word
* `snakeCase_eq_iff`, `pascalCase_eq_iff` — the spellings of a small word
* `memberName_eq_iff` — the members that have a small word as their identifier
-/

namespace RpcSchema.Naming

open RpcSchema.Text

/-! ### Characters -/

/-- The characters of generated names. -/
def IsWordChar (c : Char) : Prop := c.isAlphanum ∨ c = '_'

theorem isAlpha_of_isUpper {c : Char} (h : c.isUpper) : c.isAlpha :=
  Bool.or_eq_true_iff.mpr (.inl h)

theorem isAlpha_of_isLower {c : Char} (h : c.isLower) : c.isAlpha :=
  Bool.or_eq_true_iff.mpr (.inr h)

theorem isAlphanum_of_isUpper {c : Char} (h : c.isUpper) : c.isAlphanum :=
  isAlphanum_of_isAlpha (isAlpha_of_isUpper h)

theorem isAlphanum_of_isLower {c : Char} (h : c.isLower) : c.isAlphanum :=
  isAlphanum_of_isAlpha (isAlpha_of_isLower h)

section

variable {c : Char} (h : c.isAlphanum)
include h

theorem upper_eq : upper c = [c.toUpper] := if_pos (isAscii_of_isAlphanum h)

theorem isLower_eq : isLower c = c.isLower := if_pos (isAscii_of_isAlphanum h)

theorem isAlphanum_toUpper : c.toUpper.isAlphanum := by
  by_cases hlower : c.isLower
  · refine isAlphanum_of_isAlpha ?_
    rw [Char.isAlpha_toUpper_eq_isAlpha, isAlpha_of_isLower hlower]
  · rwa [Char.toUpper_eq_of_not_isLower hlower]

theorem isAlphanum_toLower : c.toLower.isAlphanum := by
  by_cases hupper : c.isUpper
  · refine isAlphanum_of_isAlpha ?_
    rw [Char.isAlpha_toLower_eq_isAlpha, isAlpha_of_isUpper hupper]
  · rwa [Char.toLower_eq_of_not_isUpper hupper]

theorem isUpper_or_isDigit_toUpper : c.toUpper.isUpper ∨ c.toUpper.isDigit := by
  by_cases halpha : c.isAlpha
  · exact .inl (by rw [Char.isUpper_toUpper_eq_isAlpha, halpha])
  · have hdigit : c.isDigit := (Bool.or_eq_true_iff.mp h).resolve_left halpha
    rw [Char.toUpper_eq_of_not_isLower (mt isAlpha_of_isLower halpha)]
    exact .inr hdigit

theorem ne_sigma : c ≠ 'Σ' := by
  rintro rfl
  exact absurd h (by decide)

end

theorem isUpper_toUpper {c : Char} (h : c.isAlpha) : c.toUpper.isUpper := by
  rw [Char.isUpper_toUpper_eq_isAlpha, h]

theorem toUpper_toLower {c : Char} (h : c.isUpper) : c.toLower.toUpper = c := by
  rw [Char.toUpper_toLower_eq_toUpper,
    Char.toUpper_eq_of_not_isLower (Char.not_isLower_of_isUpper h)]

section

variable {c : Char} (h : c.isLower)
include h

theorem toLower_of_isLower : c.toLower = c :=
  Char.toLower_eq_of_not_isUpper (Char.not_isUpper_of_isLower h)

theorem toLower_toUpper : c.toUpper.toLower = c := by
  rw [Char.toLower_toUpper_eq_toLower, toLower_of_isLower h]

theorem not_isUpper_or_isDigit_of_isLower : ¬(c.isUpper ∨ c.isDigit) := by
  rintro (hupper | hdigit)
  · exact Char.not_isUpper_of_isLower h hupper
  · have hle : 'a'.val ≤ c.val := of_decide_eq_true (Bool.and_eq_true_iff.mp h).1
    have hge : c.val ≤ '9'.val := of_decide_eq_true (Bool.and_eq_true_iff.mp hdigit).2
    exact absurd (UInt32.le_trans hle hge) (by decide)

end

/-! ### Pascal case -/

theorem mem_splitWhere {separates : Char → Bool} {text part : List Char}
    (h : part ∈ splitWhere separates text) : ∀ c ∈ part, c ∈ text ∧ separates c = false := by
  induction text generalizing part with
  | nil =>
    obtain rfl := List.mem_singleton.mp h
    nofun
  | cons c text ih =>
    have hrest : ∀ part ∈ splitWhere separates text, ∀ d ∈ part,
        d ∈ c :: text ∧ separates d = false :=
      fun part hpart d hd => ⟨List.mem_cons_of_mem _ (ih hpart d hd).1, (ih hpart d hd).2⟩
    rw [splitWhere] at h
    split at h
    · rcases List.mem_cons.mp h with rfl | h
      · nofun
      · exact hrest part h
    · rename_i hc
      rw [splitWhere_eq_cons] at h hrest
      rcases List.mem_cons.mp h with rfl | h
      · refine List.forall_mem_cons.mpr ⟨⟨List.mem_cons_self, by simpa using hc⟩, ?_⟩
        exact hrest _ List.mem_cons_self
      · exact hrest part (List.mem_cons_of_mem _ h)

/-- A word of a plain name is not empty and has letters and digits only. -/
theorem isAlphanum_of_mem_words {cs word : List Char}
    (hcs : ∀ c ∈ cs, c.isAlphanum ∨ c = '-' ∨ c = '_') (h : word ∈ words cs) :
    word ≠ [] ∧ ∀ c ∈ word, c.isAlphanum := by
  obtain ⟨hpart, hne⟩ := List.mem_filter.mp h
  refine ⟨by simpa using hne, fun c hc => ?_⟩
  obtain ⟨hmem, hseparates⟩ := mem_splitWhere hpart c hc
  rcases hcs c hmem with halphanum | rfl | rfl
  · exact halphanum
  · cases hseparates
  · cases hseparates

theorem toUpper_eq {cs : List Char} (h : ∀ c ∈ cs, c.isAlphanum) :
    toUpper cs = cs.map Char.toUpper := by
  rw [toUpper, List.map_eq_flatMap]
  exact List.flatMap_congr fun c hc => upper_eq (h c hc)

theorem toLower_eq {cs : List Char} (h : ∀ c ∈ cs, c.isAlphanum) :
    toLower cs = cs.map Char.toLower := by
  have hafter : ∀ before, lowerAfter before cs = cs.map Char.toLower := by
    induction cs with
    | nil => exact fun _ => rfl
    | cons c cs ih =>
      obtain ⟨hc, hcs⟩ := List.forall_mem_cons.mp h
      intro before
      rw [lowerAfter, if_neg (ne_sigma hc), lower_eq hc, ih hcs]
      rfl
  exact hafter []

/-- The first letter of a word is raised, and the others are lowered if there are only capitals. -/
theorem capitalize_cons {c : Char} {cs : List Char} (h : ∀ d ∈ c :: cs, d.isAlphanum) :
    capitalize (c :: cs) =
      c.toUpper :: if (c :: cs).map Char.toUpper = c :: cs then cs.map Char.toLower else cs := by
  obtain ⟨hc, hcs⟩ := List.forall_mem_cons.mp h
  rw [capitalize, upper_eq hc, toUpper_eq h, toLower_eq hcs]
  rfl

theorem exists_capitalize {c : Char} {cs : List Char} (h : ∀ d ∈ c :: cs, d.isAlphanum) :
    ∃ rest, capitalize (c :: cs) = c.toUpper :: rest ∧ ∀ d ∈ rest, d.isAlphanum := by
  have hcs := (List.forall_mem_cons.mp h).2
  refine ⟨_, capitalize_cons h, ?_⟩
  split
  · exact List.forall_mem_map.mpr fun d hd => isAlphanum_toLower (hcs d hd)
  · exact hcs

section

variable {cs : List Char} (hcs : ∀ c ∈ cs, c.isAlphanum ∨ c = '-' ∨ c = '_')
include hcs

theorem capitalize_of_mem_words {word : List Char} (h : word ∈ words cs) :
    ∃ c rest, capitalize word = c :: rest ∧ (c.isUpper ∨ c.isDigit) ∧
      ∀ d ∈ c :: rest, d.isAlphanum := by
  obtain ⟨hne, halphanum⟩ := isAlphanum_of_mem_words hcs h
  cases word with
  | nil => exact absurd rfl hne
  | cons c word =>
    obtain ⟨rest, hrest, hmem⟩ := exists_capitalize halphanum
    have hc := halphanum c List.mem_cons_self
    exact ⟨_, rest, hrest, isUpper_or_isDigit_toUpper hc,
      List.forall_mem_cons.mpr ⟨isAlphanum_toUpper hc, hmem⟩⟩

/-- Pascal case has letters and digits only. -/
theorem isAlphanum_of_mem_pascalChars : ∀ d ∈ pascalChars cs, d.isAlphanum := by
  intro d hd
  obtain ⟨word, hword, hd⟩ := List.mem_flatMap.mp hd
  obtain ⟨c, rest, hcapitalize, -, hmem⟩ := capitalize_of_mem_words hcs hword
  rw [hcapitalize] at hd
  exact hmem d hd

/-- Pascal case starts with a capital or a digit, if with anything. -/
theorem head?_pascalChars : ∀ d ∈ (pascalChars cs).head?, d.isUpper ∨ d.isDigit := by
  intro d hd
  rw [pascalChars] at hd
  cases hwords : words cs with
  | nil => simp [hwords] at hd
  | cons word more =>
    obtain ⟨c, rest, hcapitalize, hc, -⟩ :=
      capitalize_of_mem_words hcs (hwords ▸ List.mem_cons_self : word ∈ words cs)
    rw [hwords, List.flatMap_cons, hcapitalize] at hd
    obtain rfl := Option.some.inj hd
    exact hc

end

/-- The Pascal case of a name that starts with a letter or a digit starts with it. -/
theorem pascalChars_cons {c : Char} {cs : List Char} (hc : c.isAlphanum)
    (hcs : ∀ d ∈ cs, d.isAlphanum ∨ d = '-' ∨ d = '_') :
    ∃ rest, pascalChars (c :: cs) = c.toUpper :: rest := by
  have hseparator : isSeparator c = false := by
    simp only [isSeparator, Bool.or_eq_false_iff, decide_eq_false_iff_not]
    refine ⟨ne_underscore hc, ?_⟩
    rintro rfl
    exact absurd hc (by decide)
  obtain ⟨more, hwords⟩ : ∃ more, words (c :: cs) =
      (c :: cs.takeWhile (!isSeparator ·)) :: more := by
    rw [words, splitWhere_eq_cons, List.takeWhile_cons_of_pos (by simpa using hseparator)]
    exact ⟨_, rfl⟩
  have hall : ∀ d ∈ c :: cs, d.isAlphanum ∨ d = '-' ∨ d = '_' :=
    List.forall_mem_cons.mpr ⟨.inl hc, hcs⟩
  obtain ⟨rest, hcapitalize, -⟩ := exists_capitalize
    (isAlphanum_of_mem_words hall (hwords ▸ List.mem_cons_self)).2
  rw [pascalChars, hwords, List.flatMap_cons, hcapitalize]
  exact ⟨_, rfl⟩

/-! ### Snake case -/

/-- The first step of snake case: hyphens become underscores. -/
def underscored (cs : List Char) : List Char := cs.map fun c => if c = '-' then '_' else c

theorem isWordChar_underscored {cs : List Char}
    (hcs : ∀ c ∈ cs, c.isAlphanum ∨ c = '-' ∨ c = '_') : ∀ c ∈ underscored cs, IsWordChar c := by
  refine List.forall_mem_map.mpr fun c hc => ?_
  split
  · exact .inr rfl
  · rename_i hne
    rcases hcs c hc with h | h | h
    · exact .inl h
    · exact absurd h hne
    · exact .inr h

/-- A capital among the characters of generated names is an ASCII capital. -/
theorem isUpper_of_isWordChar {c : Char} (h : IsWordChar c) : isUpper c = c.isUpper := by
  rcases h with h | rfl
  · exact isUpper_eq h
  · rfl

/-- A capital is lowered, after an underscore if it starts a word. -/
theorem snakeAfter_capital {before : Option Char} {c : Char} {cs : List Char} (hc : c.isUpper) :
    snakeAfter before (c :: cs) =
      (if startsWord before cs then ['_'] else []) ++ c.toLower :: snakeAfter (some c) cs := by
  have halphanum := isAlphanum_of_isUpper hc
  rw [snakeAfter, isUpper_eq halphanum, if_pos hc, lower_eq halphanum, List.append_assoc]
  rfl

/-- Every other character is kept. -/
theorem snakeAfter_kept {before : Option Char} {c : Char} {cs : List Char} (hc : IsWordChar c)
    (hupper : ¬c.isUpper) : snakeAfter before (c :: cs) = c :: snakeAfter (some c) cs := by
  rw [snakeAfter, isUpper_of_isWordChar hc, if_neg hupper]
  rfl

theorem isWordChar_snakeAfter {before : Option Char} {cs : List Char}
    (hcs : ∀ c ∈ cs, IsWordChar c) : ∀ c ∈ snakeAfter before cs, IsWordChar c := by
  induction cs generalizing before with
  | nil => nofun
  | cons c cs ih =>
    obtain ⟨hc, hrest⟩ := List.forall_mem_cons.mp hcs
    by_cases hupper : c.isUpper
    · rw [snakeAfter_capital hupper, List.forall_mem_append, List.forall_mem_cons]
      refine ⟨?_, .inl (isAlphanum_toLower (isAlphanum_of_isUpper hupper)), ih hrest⟩
      split
      · exact List.forall_mem_singleton.mpr (.inr rfl)
      · nofun
    · rw [snakeAfter_kept hc hupper]
      exact List.forall_mem_cons.mpr ⟨hc, ih hrest⟩

/-- A name that starts with a letter or an underscore and goes on with letters, digits and
underscores. -/
def IsWord (cs : List Char) : Prop :=
  ∃ c rest, cs = c :: rest ∧ (c.isAlpha ∨ c = '_') ∧ ∀ d ∈ rest, IsWordChar d

/-- The snake case of a name that starts with a letter or an underscore is a word. -/
theorem isWord_snakeChars {c : Char} {cs : List Char} (hc : c.isAlpha ∨ c = '_')
    (hcs : ∀ d ∈ cs, d.isAlphanum ∨ d = '-' ∨ d = '_') : IsWord (snakeChars (c :: cs)) := by
  have hrest : ∀ d ∈ snakeAfter (some c) (underscored cs), IsWordChar d :=
    isWordChar_snakeAfter (isWordChar_underscored hcs)
  have hne : c ≠ '-' := by
    rintro rfl
    exact absurd hc (by decide)
  rw [snakeChars, List.map_cons, if_neg hne]
  by_cases hupper : c.isUpper
  · rw [snakeAfter_capital hupper]
    have halpha := (Char.isAlpha_toLower_eq_isAlpha c).trans (isAlpha_of_isUpper hupper)
    exact ⟨_, _, rfl, .inl halpha, hrest⟩
  · rw [snakeAfter_kept (hc.imp isAlphanum_of_isAlpha id) hupper]
    exact ⟨_, _, rfl, hc, hrest⟩

/-! ### Spellings of small words -/

/-- A word with its first letter raised. -/
def raised : List Char → List Char
  | [] => []
  | c :: cs => c.toUpper :: cs

variable {p : Char} {cs word : List Char}

section

variable (hcs : ∀ c ∈ cs, IsWordChar c)
  (hword : ∀ c ∈ word, c.isLower) (h : snakeAfter (some p) cs = word)
include hcs hword h

/-- After a small letter there is no capital, for it would start a word. -/
theorem eq_of_snakeAfter_of_isLower (hp : p.isLower) : cs = word := by
  induction cs generalizing p word with
  | nil => exact h
  | cons c cs ih =>
    obtain ⟨hc, hcs⟩ := List.forall_mem_cons.mp hcs
    have halphanum := isAlphanum_of_isLower hp
    subst h
    by_cases hupper : c.isUpper
    · have hstart : startsWord (some p) cs = true := by
        simp [startsWord, ne_underscore halphanum, isUpper_eq halphanum,
          Char.not_isUpper_of_isLower hp]
      rw [snakeAfter_capital hupper, hstart] at hword
      exact absurd (hword '_' List.mem_cons_self) (by decide)
    · rw [snakeAfter_kept hc hupper] at hword ⊢
      obtain ⟨hc, hmore⟩ := List.forall_mem_cons.mp hword
      exact congrArg _ (ih hcs hmore rfl hc)

/-- After a capital there are small letters only or capitals only, for the last one of several
capitals would start a word if a small letter came after it. -/
theorem eq_of_snakeAfter_of_isUpper (hp : p.isUpper) : cs = word ∨ cs = word.map Char.toUpper := by
  induction cs generalizing p word with
  | nil => exact .inl h
  | cons c cs ih =>
    obtain ⟨hc, hcs⟩ := List.forall_mem_cons.mp hcs
    subst h
    by_cases hupper : c.isUpper
    · rw [snakeAfter_capital hupper] at hword ⊢
      have hstart : startsWord (some p) cs = false := by
        by_contra hstart
        rw [Bool.not_eq_false] at hstart
        rw [hstart] at hword
        exact absurd (hword '_' List.mem_cons_self) (by decide)
      rw [hstart] at hword ⊢
      obtain ⟨-, hmore⟩ := List.forall_mem_cons.mp hword
      have hraised : c = c.toLower.toUpper := (toUpper_toLower hupper).symm
      rcases ih hcs hmore rfl hupper with hsmall | hcapitals
      · cases cs with
        | nil => exact .inr (congrArg (· :: []) hraised)
        | cons d cs =>
          have hd : d.isLower := hmore d (hsmall ▸ List.mem_cons_self)
          have hp' := isAlphanum_of_isUpper hp
          simp [startsWord, ne_underscore hp', isLower_eq (isAlphanum_of_isLower hd), hd] at hstart
      · exact .inr (congrArg₂ List.cons hraised hcapitals)
    · rw [snakeAfter_kept hc hupper] at hword ⊢
      obtain ⟨hc, hmore⟩ := List.forall_mem_cons.mp hword
      exact .inl (congrArg _ (eq_of_snakeAfter_of_isLower hcs hmore rfl hc))

end

/-- A first letter starts no word, so only what comes after it has to be told. -/
theorem eq_of_snakeAfter_none (hcs : ∀ c ∈ cs, IsWordChar c) (hword : ∀ c ∈ word, c.isLower)
    (h : snakeAfter none cs = word) :
    cs = word ∨ cs = raised word ∨ cs = word.map Char.toUpper := by
  cases cs with
  | nil => exact .inl h
  | cons c cs =>
    obtain ⟨hc, hcs⟩ := List.forall_mem_cons.mp hcs
    subst h
    by_cases hupper : c.isUpper
    · rw [snakeAfter_capital hupper] at hword ⊢
      obtain ⟨-, hmore⟩ := List.forall_mem_cons.mp hword
      have hraised : c = c.toLower.toUpper := (toUpper_toLower hupper).symm
      rcases eq_of_snakeAfter_of_isUpper hcs hmore rfl hupper with hrest | hrest
      · exact .inr (.inl (congrArg₂ List.cons hraised hrest))
      · exact .inr (.inr (congrArg₂ List.cons hraised hrest))
    · rw [snakeAfter_kept hc hupper] at hword ⊢
      obtain ⟨hc, hmore⟩ := List.forall_mem_cons.mp hword
      exact .inl (congrArg _ (eq_of_snakeAfter_of_isLower hcs hmore rfl hc))

section

variable (hword : ∀ c ∈ word, c.isLower)
include hword

theorem snakeAfter_of_isLower {before : Option Char} : snakeAfter before word = word := by
  induction word generalizing before with
  | nil => rfl
  | cons c word ih =>
    obtain ⟨hc, hword⟩ := List.forall_mem_cons.mp hword
    rw [snakeAfter_small (isAlphanum_of_isLower hc) (Char.not_isUpper_of_isLower hc), ih hword]

/-- Capitals in a row are one word. -/
theorem snakeAfter_map_toUpper (hp : p.isUpper) :
    snakeAfter (some p) (word.map Char.toUpper) = word := by
  induction word generalizing p with
  | nil => rfl
  | cons c word ih =>
    obtain ⟨hc, hword⟩ := List.forall_mem_cons.mp hword
    have hupper := isUpper_toUpper (isAlpha_of_isLower hc)
    have hstart : startsWord (some p) (word.map Char.toUpper) = false := by
      cases word with
      | nil => simp [startsWord, isUpper_eq (isAlphanum_of_isUpper hp), hp]
      | cons d word =>
        have hd := isUpper_toUpper (isAlpha_of_isLower (hword d List.mem_cons_self))
        have hsmall : ¬d.toUpper.isLower := fun h => Char.not_isUpper_of_isLower h hd
        simp [startsWord, isUpper_eq (isAlphanum_of_isUpper hp), hp,
          isLower_eq (isAlphanum_of_isUpper hd), hsmall]
    rw [List.map_cons, snakeAfter_capital hupper, hstart, toLower_toUpper hc, ih hword hupper]
    rfl

end

theorem snakeAfter_none_toUpper {c : Char} (hc : c.isLower) :
    snakeAfter none (c.toUpper :: cs) = c :: snakeAfter (some c.toUpper) cs := by
  rw [snakeAfter_capital (isUpper_toUpper (isAlpha_of_isLower hc)), toLower_toUpper hc]
  rfl

theorem snakeAfter_raised (hword : ∀ c ∈ word, c.isLower) :
    snakeAfter none (raised word) = word := by
  cases word with
  | nil => rfl
  | cons c word =>
    obtain ⟨hc, hword⟩ := List.forall_mem_cons.mp hword
    rw [raised, snakeAfter_none_toUpper hc, snakeAfter_of_isLower hword]

theorem snakeAfter_capitals (hword : ∀ c ∈ word, c.isLower) :
    snakeAfter none (word.map Char.toUpper) = word := by
  cases word with
  | nil => rfl
  | cons c word =>
    obtain ⟨hc, hword⟩ := List.forall_mem_cons.mp hword
    rw [List.map_cons, snakeAfter_none_toUpper hc,
      snakeAfter_map_toUpper hword (isUpper_toUpper (isAlpha_of_isLower hc))]

/-- A name without hyphens is not changed by the first step of snake case. -/
theorem underscored_eq_self (h : ∀ c ∈ cs, c ≠ '-') : underscored cs = cs :=
  (List.map_congr_left fun c hc => if_neg (h c hc)).trans (List.map_id _)

/-- The first step of snake case gives a text without underscores for that text only. -/
theorem underscored_eq_iff (h : ∀ c ∈ word, c.isAlphanum) : underscored cs = word ↔ cs = word := by
  constructor
  · rintro rfl
    refine (underscored_eq_self fun c hc hhyphen => ?_).symm
    have hmem : '_' ∈ underscored cs := List.mem_map.mpr ⟨c, hc, if_pos hhyphen⟩
    exact ne_underscore (h _ hmem) rfl
  · rintro rfl
    refine underscored_eq_self fun c hc hhyphen => ?_
    exact absurd (hhyphen ▸ h c hc) (by decide)

/-- The other ways to write a word of small letters. -/
def otherSpellings (word : String) : List String :=
  [String.ofList (raised word.toList), String.ofList (word.toList.map Char.toUpper)]

/-- A word of small letters as it may be written in a schema. -/
def spellings (word : String) : List String := word :: otherSpellings word

theorem isAlphanum_of_mem_raised (hword : ∀ c ∈ word, c.isLower) :
    ∀ c ∈ raised word, c.isAlphanum := by
  cases word with
  | nil => nofun
  | cons c word =>
    obtain ⟨hc, hword⟩ := List.forall_mem_cons.mp hword
    exact List.forall_mem_cons.mpr ⟨isAlphanum_toUpper (isAlphanum_of_isLower hc),
      fun d hd => isAlphanum_of_isLower (hword d hd)⟩

/-- A name has the snake case of a small word if it is one of the spellings of that word. -/
theorem snakeCase_eq_iff {name word : String} (hname : PlainName name)
    (hword : ∀ c ∈ word.toList, c.isLower) : snakeCase name = word ↔ name ∈ spellings word := by
  have halphanum : ∀ c ∈ word.toList, c.isAlphanum := fun c hc => isAlphanum_of_isLower (hword c hc)
  have hcapitals : ∀ c ∈ word.toList.map Char.toUpper, c.isAlphanum :=
    List.forall_mem_map.mpr fun c hc => isAlphanum_toUpper (halphanum c hc)
  have hchars : snakeChars name.toList = word.toList ↔ name.toList = word.toList ∨
      name.toList = raised word.toList ∨ name.toList = word.toList.map Char.toUpper := by
    refine Iff.trans ?_ (or_congr (underscored_eq_iff halphanum)
      (or_congr (underscored_eq_iff (isAlphanum_of_mem_raised hword))
        (underscored_eq_iff hcapitals)))
    change snakeAfter none (underscored name.toList) = _ ↔ _
    refine ⟨eq_of_snakeAfter_none (isWordChar_underscored hname) hword, ?_⟩
    rintro (h | h | h)
    · rw [h, snakeAfter_of_isLower hword]
    · rw [h, snakeAfter_raised hword]
    · rw [h, snakeAfter_capitals hword]
  simpa only [spellings, otherSpellings, snakeCase, List.mem_cons, List.not_mem_nil, or_false,
    ← String.toList_inj, String.toList_ofList] using hchars

example : spellings "session" = ["session", "Session", "SESSION"] := by decide

/-! #### In Pascal case -/

theorem map_toUpper_of_toLower (cs : List Char) :
    (cs.map Char.toLower).map Char.toUpper = cs.map Char.toUpper := by
  rw [List.map_map]
  exact List.map_congr_left fun c _ => Char.toUpper_toLower_eq_toUpper c

/-- A small word in each of its spellings is capitalized alike. -/
theorem capitalize_eq_iff {c : Char} {cs word : List Char} (hword : ∀ d ∈ c :: word, d.isLower)
    (hcs : ∀ d ∈ cs, d.isAlphanum) : capitalize cs = c.toUpper :: word ↔
      cs = c :: word ∨ cs = c.toUpper :: word ∨ cs = (c :: word).map Char.toUpper := by
  obtain ⟨hc, hmore⟩ := List.forall_mem_cons.mp hword
  constructor
  · intro h
    cases cs with
    | nil => cases h
    | cons d ds =>
      rw [capitalize_cons hcs] at h
      obtain ⟨hfirst, hrest⟩ := List.cons.inj h
      split at hrest
      · rename_i hfixed
        obtain ⟨hd, hds⟩ := List.cons.inj hfixed
        rw [← hrest, List.map_cons, map_toUpper_of_toLower, hds, ← hfirst, hd]
        exact .inr (.inr rfl)
      · rw [hrest]
        by_cases hsmall : d.isLower
        · have hfirst' := congrArg Char.toLower hfirst
          rw [toLower_toUpper hsmall, toLower_toUpper hc] at hfirst'
          exact .inl (congrArg (· :: word) hfirst')
        · rw [Char.toUpper_eq_of_not_isLower hsmall] at hfirst
          exact .inr (.inl (congrArg (· :: word) hfirst))
  · have hlowered : word.map Char.toLower = word :=
      (List.map_congr_left fun d hd => toLower_of_isLower (hmore d hd)).trans (List.map_id _)
    rintro (rfl | rfl | rfl)
    · rw [capitalize_cons hcs, hlowered, ite_self]
    · rw [capitalize_cons hcs, hlowered, ite_self, Char.toUpper_toUpper_eq_toUpper]
    · have hfixed : ((c :: word).map Char.toUpper).map Char.toUpper =
          (c :: word).map Char.toUpper := by
        rw [List.map_map]
        exact List.map_congr_left fun d _ => Char.toUpper_toUpper_eq_toUpper d
      have hback : (word.map Char.toUpper).map Char.toLower = word := by
        rw [List.map_map]
        exact (List.map_congr_left fun d hd => toLower_toUpper (hmore d hd)).trans (List.map_id _)
      rw [List.map_cons] at hcs hfixed ⊢
      rw [capitalize_cons hcs, if_pos hfixed, Char.toUpper_toUpper_eq_toUpper, hback]

/-- Pascal case of one small word comes from that word alone: another one would bring a capital. -/
theorem pascalChars_eq_iff {c : Char} {cs word : List Char} (hword : ∀ d ∈ c :: word, d.isLower)
    (hcs : ∀ d ∈ cs, d.isAlphanum ∨ d = '-' ∨ d = '_') : pascalChars cs = c.toUpper :: word ↔
      ∃ spelling, words cs = [spelling] ∧ (spelling = c :: word ∨ spelling = c.toUpper :: word ∨
        spelling = (c :: word).map Char.toUpper) := by
  constructor
  · intro h
    rw [pascalChars] at h
    cases hwords : words cs with
    | nil =>
      rw [hwords] at h
      cases h
    | cons spelling more =>
      have hmem : spelling ∈ words cs := hwords ▸ List.mem_cons_self
      rw [hwords, List.flatMap_cons] at h
      have hmore : more = [] := by
        cases more with
        | nil => rfl
        | cons next more =>
          obtain ⟨d, ds, hfirst, -, -⟩ := capitalize_of_mem_words hcs hmem
          obtain ⟨e, es, hnext, he, -⟩ := capitalize_of_mem_words hcs
            (hwords ▸ List.mem_cons_of_mem _ List.mem_cons_self : next ∈ words cs)
          rw [List.flatMap_cons, hfirst, hnext] at h
          have hlower : e.isLower := by
            refine hword e (List.mem_cons_of_mem _ ?_)
            rw [← (List.cons.inj h).2]
            simp
          exact absurd he (not_isUpper_or_isDigit_of_isLower hlower)
      subst hmore
      rw [List.flatMap_nil, List.append_nil,
        capitalize_eq_iff hword (isAlphanum_of_mem_words hcs hmem).2] at h
      exact ⟨spelling, rfl, h⟩
  · rintro ⟨spelling, hwords, hspelling⟩
    have hmem : spelling ∈ words cs := hwords ▸ List.mem_cons_self
    rw [pascalChars, hwords, List.flatMap_cons, List.flatMap_nil, List.append_nil,
      (capitalize_eq_iff hword (isAlphanum_of_mem_words hcs hmem).2).mpr hspelling]

/-- The only word of a name is a small word, in one of its spellings. -/
def SpellsOnly (name word : String) : Prop :=
  ∃ spelling ∈ spellings word, words name.toList = [spelling.toList]

/-- A name has the Pascal case of a small word if that is its only word. -/
theorem pascalCase_eq_iff {name word : String} (hname : PlainName name)
    (hword : ∀ c ∈ word.toList, c.isLower) (hne : word.toList ≠ []) :
    pascalCase name = String.ofList (raised word.toList) ↔ SpellsOnly name word := by
  obtain ⟨c, rest, hchars⟩ := List.exists_cons_of_ne_nil hne
  rw [pascalCase, String.ofList_inj, hchars, raised, pascalChars_eq_iff (hchars ▸ hword) hname]
  simp only [SpellsOnly, spellings, otherSpellings, List.mem_cons, List.not_mem_nil, or_false,
    hchars, raised]
  constructor
  · rintro ⟨spelling, hwords, hspelling⟩
    refine ⟨String.ofList spelling, ?_, by rw [String.toList_ofList, hwords]⟩
    rwa [← String.toList_inj, String.toList_ofList, hchars, String.ofList_inj, String.ofList_inj]
  · rintro ⟨spelling, hspelling, hwords⟩
    refine ⟨spelling.toList, hwords, ?_⟩
    rwa [← String.toList_inj, ← String.toList_inj, ← String.toList_inj, String.toList_ofList,
      String.toList_ofList, hchars] at hspelling

/-! ### Members -/

/-- Only keywords are escaped, and an escaped one ends with an underscore. -/
theorem escapeKeyword_eq_iff {name word : String} (hkeyword : word ∉ keywords)
    (hend : word.toList.getLast? ≠ some '_') : escapeKeyword name = word ↔ name = word := by
  rw [escapeKeyword]
  split
  · rename_i hname
    constructor
    · rintro rfl
      exact absurd (by simp) hend
    · rintro rfl
      exact absurd (List.contains_iff_mem.mp hname) hkeyword
  · exact Iff.rfl

/-- A member has a small word as its identifier if its name is one of the spellings of the word. -/
theorem memberName_eq_iff {name word : String} (hname : PlainName name)
    (hword : ∀ c ∈ word.toList, c.isLower) (hkeyword : word ∉ keywords) :
    memberName name = word ↔ name ∈ spellings word := by
  have hend : word.toList.getLast? ≠ some '_' := fun hlast =>
    absurd (hword '_' (List.mem_of_getLast? hlast)) (by decide)
  rw [memberName, escapeKeyword_eq_iff hkeyword hend, snakeCase_eq_iff hname hword]

end RpcSchema.Naming
