import Mathlib.Data.List.TakeWhile
import Mathlib.Data.Option.Basic
import Mathlib.Tactic.Common
import RpcSchema.Decimal.Text
import RpcSchema.Json.Printer
import RpcSchema.Json.Token

/-!
# Written scalars are tokens

Each scalar that is written is one token when it is read, and the token stands for the scalar.

A string is read character by character, whatever follows its closing quote. A number ends where
something follows that cannot go on with it, which a comma and a closing bracket cannot, so a
number is one token inside a text if it is one by itself. That holds for every integer between the
bounds of words; for floats it rests on the digits that reading rounds back, so it is a condition
of each float.

## Main definitions

* `Closes` — what may follow a value
* `ReadsBack` — a float whose text stands for it

## Main results

* `next?_quoted` — strings
* `next?_append` — numbers, whatever follows
* `next?_int` — integers
-/

namespace RpcSchema.Json

namespace Token

/-! ### Strings -/

theorem hexDigit?_hexChar : ∀ n < 16, hexDigit? (hexChar n) = some n := by
  decide

section

variable {rest after : List Char} {more : List Piece}

theorem pieces?_quote : pieces? ('"' :: rest) = some ([], rest) := by
  rw [pieces?]

theorem pieces?_short {c d : Char} (hu : c ≠ 'u') (hc : shortEscape? c = some d)
    (h : pieces? rest = some (more, after)) :
    pieces? ('\\' :: c :: rest) = some (.char d :: more, after) := by
  rw [pieces?.eq_4 _ _ fun _ _ _ _ _ hcu _ => hu hcu, hc, h]
  rfl

theorem pieces?_code {n : Nat} (hn : n < 256) (h : pieces? rest = some (more, after)) :
    pieces? ('\\' :: 'u' :: '0' :: '0' :: hexChar (n / 16) :: hexChar (n % 16) :: rest) =
      some (.code n :: more, after) := by
  have hzero : hexDigit? '0' = some 0 := rfl
  have hcode : (0 * 16 + 0) * 256 + (n / 16 * 16 + n % 16) = n := by omega
  rw [pieces?, hzero, hexDigit?_hexChar (n / 16) (by omega), hexDigit?_hexChar (n % 16) (by omega),
    h]
  exact congrArg (fun code => some (.code code :: more, after)) hcode

theorem pieces?_raw {c : Char} (hquote : c ≠ '"') (hslash : c ≠ '\\') (hc : 32 ≤ c.toNat)
    (h : pieces? rest = some (more, after)) :
    pieces? (c :: rest) = some (.char c :: more, after) := by
  rw [pieces?.eq_5 _ _ hquote (fun _ _ _ _ _ heq _ => hslash heq) fun _ _ heq _ => hslash heq,
    guard, if_pos hc, h]
  rfl

end

/-- The code of a character below the surrogates is that character. -/
theorem pieceChars?_code {n : Nat} (h : n < 0xD800) (more : List Piece) :
    pieceChars? (.code n :: more) = (pieceChars? more).map (Char.ofNat n :: ·) := by
  have hleading : isLeading n = false := by
    rw [isLeading, Bool.and_eq_false_iff, decide_eq_false_iff_not]
    omega
  have htrailing : isTrailing n = false := by
    rw [isTrailing, Bool.and_eq_false_iff, decide_eq_false_iff_not]
    omega
  cases more with
  | nil => simp [pieceChars?, hleading, htrailing]
  | cons piece more => cases piece <;> simp [pieceChars?, hleading, htrailing]

/-- A written character is read as one piece, which stands for the character. -/
theorem pieces?_escapeChar (c : Char) : ∃ piece,
    (∀ {rest more after}, pieces? rest = some (more, after) →
      pieces? (escapeChar c ++ rest) = some (piece :: more, after)) ∧
    ∀ more, pieceChars? (piece :: more) = (pieceChars? more).map (c :: ·) := by
  unfold escapeChar
  split
  · exact ⟨.char '"', pieces?_short (by decide) rfl, fun more => rfl⟩
  · exact ⟨.char '\\', pieces?_short (by decide) rfl, fun more => rfl⟩
  · exact ⟨.char '\x08', pieces?_short (by decide) rfl, fun more => rfl⟩
  · exact ⟨.char '\x09', pieces?_short (by decide) rfl, fun more => rfl⟩
  · exact ⟨.char '\x0a', pieces?_short (by decide) rfl, fun more => rfl⟩
  · exact ⟨.char '\x0c', pieces?_short (by decide) rfl, fun more => rfl⟩
  · exact ⟨.char '\x0d', pieces?_short (by decide) rfl, fun more => rfl⟩
  · rename_i hquote hslash _ _ _ _ _
    by_cases hc : c.toNat < 32
    · rw [if_pos hc]
      refine ⟨.code c.toNat, pieces?_code (by omega), fun more => ?_⟩
      rw [pieceChars?_code (by omega), Char.ofNat_toNat]
    · rw [if_neg hc]
      exact ⟨.char c, pieces?_raw hquote hslash (by omega), fun more => rfl⟩

/-- A written string is read up to its closing quote. -/
theorem pieces?_escaped (cs rest : List Char) : ∃ pieces,
    pieces? (cs.flatMap escapeChar ++ '"' :: rest) = some (pieces, rest) ∧
      pieceChars? pieces = some cs := by
  induction cs with
  | nil => exact ⟨[], pieces?_quote, rfl⟩
  | cons c cs ih =>
    obtain ⟨more, hmore, hchars⟩ := ih
    obtain ⟨piece, hpiece, hchar⟩ := pieces?_escapeChar c
    refine ⟨piece :: more, ?_, ?_⟩
    · rw [List.flatMap_cons, List.append_assoc]
      exact hpiece hmore
    · rw [hchar, hchars]
      rfl

theorem toList_quoted (text : String) :
    (quoted text).toList = '"' :: (text.toList.flatMap escapeChar ++ ['"']) := by
  simp [quoted]

/-- A written string is one token. -/
theorem next?_quoted (text : String) (rest : List Char) :
    next? ((quoted text).toList ++ rest) = some (.string (some text), rest) := by
  obtain ⟨pieces, hpieces, hchars⟩ := pieces?_escaped text.toList rest
  rw [toList_quoted, List.cons_append, List.append_assoc, List.singleton_append, next?, hpieces]
  simp only [Option.map_some, hchars, String.ofList_toList]

/-! ### Numbers -/

/-- A number literal after its sign, and the text after it. -/
def unsigned? (negative : Bool) (cs : List Char) : Option (Literal × List Char) := do
  let (whole, rest) ← whole? cs
  let (fraction, rest) ← fraction? rest
  let (exponent, rest) ← exponent? rest
  return (⟨negative, whole, fraction, exponent⟩, rest)

theorem literal?_minus (cs : List Char) : literal? ('-' :: cs) = unsigned? true cs := rfl

theorem literal?_of_ne {cs : List Char} (h : ∀ more, cs ≠ '-' :: more) :
    literal? cs = unsigned? false cs := by
  rw [literal?, unsigned?]
  exact h

/-- What may follow a value: its end, a comma or a closing bracket. -/
def Closes (rest : List Char) : Prop := ∀ c ∈ rest.head?, c = ',' ∨ c = ']' ∨ c = '\x7d'

theorem closes_nil : Closes [] := nofun

theorem closes_cons {c : Char} (h : c = ',' ∨ c = ']' ∨ c = '\x7d') (rest : List Char) :
    Closes (c :: rest) := by
  simpa [Closes] using h

section

variable {rest : List Char} (hrest : Closes rest)

include hrest

theorem Closes.isDigit_eq_false : ∀ c ∈ rest.head?, c.isDigit = false := by
  intro c hc
  rcases hrest c hc with rfl | rfl | rfl <;> rfl

theorem takeWhile_isDigit_append (cs : List Char) :
    (cs ++ rest).takeWhile Char.isDigit = cs.takeWhile Char.isDigit := by
  induction cs with
  | nil =>
    cases rest with
    | nil => rfl
    | cons c rest => simp [hrest.isDigit_eq_false c rfl]
  | cons c cs ih => simp only [List.cons_append, List.takeWhile_cons, ih]

theorem dropWhile_isDigit_append (cs : List Char) :
    (cs ++ rest).dropWhile Char.isDigit = cs.dropWhile Char.isDigit ++ rest := by
  induction cs with
  | nil =>
    cases rest with
    | nil => rfl
    | cons c rest => simp [hrest.isDigit_eq_false c rfl]
  | cons c cs ih =>
    simp only [List.cons_append, List.dropWhile_cons, ih]
    split <;> rfl

theorem whole?_append (cs : List Char) :
    whole? (cs ++ rest) = (whole? cs).map fun (whole, more) => (whole, more ++ rest) := by
  have hother {cs : List Char} (h : ∀ more, cs ≠ '0' :: more) : whole? cs =
      if (cs.takeWhile Char.isDigit).isEmpty then none
      else some (cs.takeWhile Char.isDigit, cs.dropWhile Char.isDigit) :=
    whole?.eq_2 cs h
  by_cases hzero : ∃ more, cs = '0' :: more
  · obtain ⟨more, rfl⟩ := hzero
    rfl
  · rw [hother fun more heq => hzero ⟨more, heq⟩, hother, takeWhile_isDigit_append hrest,
      dropWhile_isDigit_append hrest]
    · split <;> rfl
    · intro more heq
      cases cs with
      | nil =>
        have hdigit := hrest.isDigit_eq_false '0' (by rw [← List.nil_append rest, heq]; rfl)
        exact absurd hdigit (by decide)
      | cons c cs => exact hzero ⟨cs, by rw [(List.cons.inj heq).1]⟩

theorem fraction?_append (cs : List Char) :
    fraction? (cs ++ rest) = (fraction? cs).map fun (digits, more) => (digits, more ++ rest) := by
  cases cs with
  | nil =>
    cases rest with
    | nil => rfl
    | cons c rest =>
      rcases hrest c rfl with rfl | rfl | rfl <;> rfl
  | cons c cs =>
    by_cases hc : c = '.'
    · subst hc
      simp only [List.cons_append, fraction?, takeWhile_isDigit_append hrest,
        dropWhile_isDigit_append hrest]
      split <;> rfl
    · simp [fraction?, hc]

omit hrest in
theorem exponent?_cons (c : Char) (cs : List Char) : exponent? (c :: cs) =
    if c = 'e' || c = 'E' then
      let (negative, digits) := Decimal.signed cs
      let n : Int := digitsValue (digits.takeWhile Char.isDigit)
      if (digits.takeWhile Char.isDigit).isEmpty then none
      else some (some (if negative then -n else n), digits.dropWhile Char.isDigit)
    else some (none, c :: cs) :=
  rfl

theorem signed_append (cs : List Char) :
    Decimal.signed (cs ++ rest) = ((Decimal.signed cs).1, (Decimal.signed cs).2 ++ rest) := by
  cases cs with
  | nil =>
    cases rest with
    | nil => rfl
    | cons c rest =>
      rcases hrest c rfl with rfl | rfl | rfl <;> rfl
  | cons c cs =>
    unfold Decimal.signed
    split <;> simp_all

theorem exponent?_append (cs : List Char) :
    exponent? (cs ++ rest) = (exponent? cs).map fun (n, more) => (n, more ++ rest) := by
  cases cs with
  | nil =>
    cases rest with
    | nil => rfl
    | cons c rest =>
      rcases hrest c rfl with rfl | rfl | rfl <;> rfl
  | cons c cs =>
    simp only [List.cons_append, exponent?_cons, signed_append hrest,
      takeWhile_isDigit_append hrest, dropWhile_isDigit_append hrest]
    split
    · split <;> rfl
    · rfl

theorem unsigned?_append (negative : Bool) (cs : List Char) : unsigned? negative (cs ++ rest) =
    (unsigned? negative cs).map fun (l, more) => (l, more ++ rest) := by
  simp only [unsigned?, whole?_append hrest]
  cases whole? cs with
  | none => rfl
  | some w =>
    simp only [Option.map_some, Option.bind_eq_bind, Option.bind_some, fraction?_append hrest]
    cases fraction? w.2 with
    | none => rfl
    | some f =>
      simp only [Option.map_some, Option.bind_some, exponent?_append hrest]
      cases exponent? f.2 with
      | none => rfl
      | some e => rfl

/-- A number ends where something follows that may follow a value. -/
theorem literal?_append (cs : List Char) :
    literal? (cs ++ rest) = (literal? cs).map fun (l, more) => (l, more ++ rest) := by
  by_cases hminus : ∃ more, cs = '-' :: more
  · obtain ⟨more, rfl⟩ := hminus
    exact unsigned?_append hrest true more
  · rw [literal?_of_ne, literal?_of_ne, unsigned?_append hrest]
    · exact fun more heq => hminus ⟨more, heq⟩
    · intro more heq
      cases cs with
      | nil =>
        rcases hrest '-' (by rw [← List.nil_append rest, heq]; rfl) with h | h | h <;> cases h
      | cons c cs => exact hminus ⟨cs, by rw [(List.cons.inj heq).1]⟩

end

/-! ### Number tokens -/

theorem literal?_eq_none {c : Char} (hminus : c ≠ '-') (hdigit : c.isDigit = false)
    (cs : List Char) : literal? (c :: cs) = none := by
  have hzero : c ≠ '0' := by
    rintro rfl
    exact absurd hdigit (by decide)
  rw [literal?_of_ne fun more heq => hminus (List.cons.inj heq).1, unsigned?,
    whole?.eq_2 _ fun more heq => hzero (List.cons.inj heq).1]
  simp [hdigit]

theorem next?_of_literal? {cs rest : List Char} {l : Literal} (h : literal? cs = some (l, rest)) :
    next? cs = some (.number l.number?, rest) := by
  unfold next?
  split
  all_goals first
    | rw [literal?_eq_none (by decide) (by decide)] at h; cases h
    | rw [h]; rfl

theorem literal?_of_next? {cs rest : List Char} {n : Option Number}
    (h : next? cs = some (.number n, rest)) :
    ∃ l, literal? cs = some (l, rest) ∧ l.number? = n := by
  unfold next? at h
  split at h
  case h_11 =>
    obtain ⟨⟨l, more⟩, hl, heq⟩ := Option.map_eq_some_iff.mp h
    cases heq
    exact ⟨l, hl, rfl⟩
  all_goals simp at h

/-- A text that is one number token by itself is one wherever a value may end. -/
theorem next?_append {cs rest : List Char} {n : Option Number}
    (h : next? cs = some (.number n, [])) (hrest : Closes rest) :
    next? (cs ++ rest) = some (.number n, rest) := by
  obtain ⟨l, hl, rfl⟩ := literal?_of_next? h
  refine next?_of_literal? ?_
  rw [literal?_append hrest, hl]
  rfl

/-- A number token starts with its sign or a digit. -/
theorem exists_cons_of_number {cs rest : List Char} {n : Option Number}
    (h : next? cs = some (.number n, rest)) : ∃ c more, cs = c :: more ∧ isBlank c = false := by
  obtain ⟨l, hl, -⟩ := literal?_of_next? h
  cases cs with
  | nil => cases hl
  | cons c more =>
    refine ⟨c, more, rfl, Bool.eq_false_iff.mpr fun hblank => ?_⟩
    simp only [isBlank, Bool.or_eq_true, decide_eq_true_eq] at hblank
    rw [literal?_eq_none] at hl
    · cases hl
    · rcases hblank with ((rfl | rfl) | rfl) | rfl <;> decide
    · rcases hblank with ((rfl | rfl) | rfl) | rfl <;> decide

/-! ### Integers -/

theorem digitsValue_toDigits (n : Nat) : digitsValue (Nat.toDigits 10 n) = n :=
  Nat.ofDigitChars_ten_toDigits

theorem isDigit_toDigits (n : Nat) : ∀ c ∈ Nat.toDigits 10 n, c.isDigit := fun _ =>
  Nat.isDigit_of_mem_toDigits (by decide) (by decide)

/-- Only zero is written with a leading zero. -/
theorem head?_toDigits {n : Nat} (hn : 0 < n) : (Nat.toDigits 10 n).head? ≠ some '0' := by
  induction n using Nat.base_induction 10 (by decide) with
  | single m hm =>
    have hdigit : ∀ m < 10, 0 < m → Nat.digitChar m ≠ '0' := by decide
    rw [Nat.toDigits_of_lt_base hm, List.head?_cons, ne_eq, Option.some_inj]
    exact hdigit m hm hn
  | digit m k hk hm ih =>
    rw [← Nat.toDigits_append_toDigits (by decide) hm hk,
      List.head?_append, Option.or_of_isSome (List.isSome_head?.mpr Nat.toDigits_ne_nil)]
    exact ih hm

theorem whole?_toDigits (n : Nat) : whole? (Nat.toDigits 10 n) = some (Nat.toDigits 10 n, []) := by
  rcases Nat.eq_zero_or_pos n with rfl | hn
  · rfl
  · have hhead : ∀ more, Nat.toDigits 10 n ≠ '0' :: more := fun more heq =>
      head?_toDigits hn (by rw [heq, List.head?_cons])
    have htake : (Nat.toDigits 10 n).takeWhile Char.isDigit = Nat.toDigits 10 n :=
      List.takeWhile_eq_self_iff.mpr (isDigit_toDigits n)
    have hdrop : (Nat.toDigits 10 n).dropWhile Char.isDigit = [] :=
      List.dropWhile_eq_nil_iff.mpr (isDigit_toDigits n)
    have hne : (Nat.toDigits 10 n).isEmpty = false :=
      List.isEmpty_eq_false_iff.mpr Nat.toDigits_ne_nil
    rw [whole?.eq_2 _ hhead, htake, hdrop, hne]
    rfl

theorem unsigned?_toDigits (negative : Bool) (n : Nat) :
    unsigned? negative (Nat.toDigits 10 n) =
      some (⟨negative, Nat.toDigits 10 n, none, none⟩, []) := by
  rw [unsigned?, whole?_toDigits]
  rfl

/-- The integers that JSON has words for. -/
def IsInteger (n : Int) : Prop := Int64.minValue.toInt ≤ n ∧ n < UInt64.size

theorem literal?_toDigits (n : Nat) : literal? (Nat.toDigits 10 n) =
    some (⟨false, Nat.toDigits 10 n, none, none⟩, []) := by
  rw [literal?_of_ne, unsigned?_toDigits]
  intro more heq
  have hdigit := isDigit_toDigits n '-' (heq ▸ List.mem_cons_self)
  exact absurd hdigit (by decide)

theorem number?_natural {n : Nat} (h : n < UInt64.size) :
    Literal.number? ⟨false, Nat.toDigits 10 n, none, none⟩ = some (.int n) := by
  simp [Literal.number?, digitsValue_toDigits, h]

theorem number?_negative {n : Nat} (hn : 0 < n) (h : Int64.minValue.toInt ≤ -n) :
    Literal.number? ⟨true, Nat.toDigits 10 n, none, none⟩ = some (.int (-n)) := by
  rw [Int64.toInt_minValue] at h
  simp [Literal.number?, digitsValue_toDigits, hn]
  omega

/-- A written integer is one token. -/
theorem next?_int {n : Int} (h : IsInteger n) :
    next? (toString n).toList = some (.number (some (.int n)), []) := by
  obtain ⟨hmin, hmax⟩ := h
  rw [Int.toString_eq_repr, Int.repr_eq_if]
  by_cases hn : 0 ≤ n
  · obtain ⟨m, rfl⟩ := Int.eq_ofNat_of_zero_le hn
    rw [if_pos hn, Int.toNat_natCast, Nat.toList_repr, next?_of_literal? (literal?_toDigits m),
      number?_natural (by omega)]
  · obtain ⟨m, hm⟩ : ∃ m : Nat, n = -m := ⟨(-n).toNat, by omega⟩
    subst hm
    rw [if_neg hn, Int.neg_neg, Int.toNat_natCast, String.toList_append, Nat.toList_repr]
    have hnext := next?_of_literal? ((literal?_minus _).trans (unsigned?_toDigits true m))
    rw [number?_negative (by omega) hmin] at hnext
    exact hnext

/-! ### Floats -/

/-- A float whose text is one token that stands for it. Its digits are the fewest that are nearer to
it than to any other float, so reading has to round correctly, as `Literal.number?` does. A reader
that trades this for speed takes some of these texts for a neighbouring float, and of such a reader
the condition would hold of fewer floats. -/
def ReadsBack (x : Float) : Prop :=
  next? (floatText x).toList = some (.number (some (.float x)), [])

example : ReadsBack (-2.5) := rfl

end Token

end RpcSchema.Json
