import Mathlib.Data.List.Chain
import RpcSchema.Naming

/-!
# Names that stay apart

Generated names are made from schema names by conversions that forget something, so two names may
meet. Snake case forgets which letters were capitals and remembers where words start. A run of
capitals is one word, so `SessionID` and `SessionId` meet. In camel case no two capitals stand side
by side, so every capital starts a word, and the capitals can be told from the snake case.

## Main definitions

* `IsCamel` — words that start with a capital each and have no other

## Main results

* `snakeCase_inj` — names in camel case are told apart by their snake case
-/

namespace RpcSchema.Naming

open RpcSchema.Text

/-! ### Letters -/

theorem isAscii_of_isAlphanum {c : Char} (h : c.isAlphanum) : isAscii c := by
  have hle : ∀ {d : Char}, decide (c.val ≤ d.val) = true → d.toNat < 128 → isAscii c :=
    fun hcd hd => decide_eq_true ((of_decide_eq_true hcd : c.toNat ≤ _).trans_lt hd)
  obtain halpha | hdigit := Bool.or_eq_true_iff.mp h
  · obtain hupper | hlower := Bool.or_eq_true_iff.mp halpha
    · exact hle (decide_eq_true (of_decide_eq_true hupper).2) (by decide)
    · exact hle (Bool.and_eq_true_iff.mp hlower).2 (by decide)
  · exact hle (Bool.and_eq_true_iff.mp hdigit).2 (by decide)

theorem isUpper_eq {c : Char} (h : c.isAlphanum) : isUpper c = c.isUpper :=
  if_pos (isAscii_of_isAlphanum h)

theorem lower_eq {c : Char} (h : c.isAlphanum) : lower c = [c.toLower] :=
  if_pos (isAscii_of_isAlphanum h)

theorem ne_underscore {c : Char} (h : c.isAlphanum) : c ≠ '_' := by
  rintro rfl
  exact absurd h (by decide)

theorem toLower_inj {c d : Char} (hc : c.isUpper) (hd : d.isUpper) (h : c.toLower = d.toLower) :
    c = d := by
  have hlower : ∀ {e : Char}, e.isUpper → e.toLower.val = e.val + ('a'.val - 'A'.val) :=
    fun he => congrArg Char.val (dif_pos (of_decide_eq_true he))
  have hval := congrArg Char.val h
  rw [hlower hc, hlower hd] at hval
  exact Char.ext (by simpa using hval)

/-! ### Camel case -/

/-- A name of words that each start with a capital and have no other. -/
structure IsCamel (name : String) : Prop where
  alphanum : ∀ c ∈ name.toList, c.isAlphanum
  starts : ∀ c ∈ name.toList.head?, c.isUpper
  apart : name.toList.IsChain fun a b => a.isUpper → ¬b.isUpper

variable {p q c d : Char} {cs ds : List Char}

/-- A capital that does not follow another one starts a word. -/
theorem snakeAfter_upper (hp : p.isAlphanum) (hc : c.isAlphanum) (hnext : p.isUpper → ¬c.isUpper)
    (hupper : c.isUpper) :
    snakeAfter (some p) (c :: cs) = '_' :: c.toLower :: snakeAfter (some c) cs := by
  have hstart : startsWord (some p) cs = true := by
    have hsmall : p.isUpper = false := by simpa [hupper] using hnext
    simp [startsWord, ne_underscore hp, isUpper_eq hp, hsmall]
  rw [snakeAfter, isUpper_eq hc, if_pos hupper, hstart, if_pos rfl, lower_eq hc]
  rfl

theorem snakeAfter_small {before : Option Char} (hc : c.isAlphanum) (hsmall : ¬c.isUpper) :
    snakeAfter before (c :: cs) = c :: snakeAfter (some c) cs := by
  rw [snakeAfter, isUpper_eq hc, if_neg hsmall]
  rfl

/-- What follows a letter can be read back from its snake case: an underscore stands before each
capital and nowhere else. -/
theorem snakeAfter_inj (hp : ∀ x ∈ p :: cs, x.isAlphanum) (hq : ∀ x ∈ q :: ds, x.isAlphanum)
    (hcs : (p :: cs).IsChain fun a b => a.isUpper → ¬b.isUpper)
    (hds : (q :: ds).IsChain fun a b => a.isUpper → ¬b.isUpper)
    (h : snakeAfter (some p) cs = snakeAfter (some q) ds) : cs = ds := by
  induction cs generalizing p q ds with
  | nil =>
    cases ds with
    | nil => rfl
    | cons d ds =>
      obtain ⟨hq, hd, -⟩ := by simpa using hq
      obtain ⟨hnext, -⟩ := List.isChain_cons_cons.mp hds
      by_cases hupper : d.isUpper
      · rw [snakeAfter_upper hq hd hnext hupper] at h
        cases h
      · rw [snakeAfter_small hd hupper] at h
        cases h
  | cons c cs ih =>
    obtain ⟨hpnext, hcs⟩ := List.isChain_cons_cons.mp hcs
    obtain ⟨hp, hrest⟩ := List.forall_mem_cons.mp hp
    have hc := hrest c List.mem_cons_self
    cases ds with
    | nil =>
      by_cases hupper : c.isUpper
      · rw [snakeAfter_upper hp hc hpnext hupper] at h
        cases h
      · rw [snakeAfter_small hc hupper] at h
        cases h
    | cons d ds =>
      obtain ⟨hqnext, hds⟩ := List.isChain_cons_cons.mp hds
      obtain ⟨hq, hrest'⟩ := List.forall_mem_cons.mp hq
      have hd := hrest' d List.mem_cons_self
      by_cases hupper : c.isUpper <;> by_cases hupper' : d.isUpper
      · rw [snakeAfter_upper hp hc hpnext hupper, snakeAfter_upper hq hd hqnext hupper'] at h
        simp only [List.cons.injEq, true_and] at h
        rw [toLower_inj hupper hupper' h.1, ih hrest hrest' hcs hds h.2]
      · rw [snakeAfter_upper hp hc hpnext hupper, snakeAfter_small hd hupper'] at h
        exact absurd (List.cons.inj h).1.symm (ne_underscore hd)
      · rw [snakeAfter_small hc hupper, snakeAfter_upper hq hd hqnext hupper'] at h
        exact absurd (List.cons.inj h).1 (ne_underscore hc)
      · rw [snakeAfter_small hc hupper, snakeAfter_small hd hupper'] at h
        simp only [List.cons.injEq] at h
        rw [h.1, ih hrest hrest' hcs hds h.2]

/-- A name in camel case starts with a small letter in snake case, and then goes on. -/
theorem snakeChars_of_camel (hc : c.isUpper) (hcs : ∀ x ∈ c :: cs, x.isAlphanum) :
    snakeChars (c :: cs) = c.toLower :: snakeAfter (some c) cs := by
  have hkept : (c :: cs).map (fun x => if x = '-' then '_' else x) = c :: cs := by
    refine (List.map_congr_left fun x hx => if_neg ?_).trans (List.map_id _)
    rintro rfl
    exact absurd (hcs _ hx) (by decide)
  have halphanum := hcs c List.mem_cons_self
  rw [snakeChars, hkept, snakeAfter, isUpper_eq halphanum, if_pos hc, lower_eq halphanum]
  rfl

/-- Names in camel case are told apart by their snake case. -/
theorem snakeCase_inj {a b : String} (ha : IsCamel a) (hb : IsCamel b)
    (h : snakeCase a = snakeCase b) : a = b := by
  rw [snakeCase, snakeCase, String.ofList_inj] at h
  obtain ⟨ha, hastart, hanext⟩ := ha
  obtain ⟨hb, hbstart, hbnext⟩ := hb
  rw [← String.toList_inj]
  cases hal : a.toList with
  | nil =>
    cases hbl : b.toList with
    | nil => rfl
    | cons d ds =>
      rw [hal, hbl, snakeChars_of_camel (hbstart d (by simp [hbl])) (hbl ▸ hb)] at h
      cases h
  | cons c cs =>
    have hc := hastart c (by simp [hal])
    rw [hal, snakeChars_of_camel hc (hal ▸ ha)] at h
    cases hbl : b.toList with
    | nil =>
      rw [hbl] at h
      cases h
    | cons d ds =>
      have hd := hbstart d (by simp [hbl])
      rw [hbl, snakeChars_of_camel hd (hbl ▸ hb)] at h
      simp only [List.cons.injEq] at h
      rw [toLower_inj hc hd h.1,
        snakeAfter_inj (hal ▸ ha) (hbl ▸ hb) (hal ▸ hanext) (hbl ▸ hbnext) h.2]

end RpcSchema.Naming
