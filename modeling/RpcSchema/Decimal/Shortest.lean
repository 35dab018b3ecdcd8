/-!
# The shortest decimal of a binary float

Which decimal digits stand for a finite binary float: the fewest that read back as the same
float, and of those the nearest to it. A float is `m * 2 ^ q`; the decimals that read back are
those of an interval around it, whose ends belong to it exactly when `m` is even, because reading
rounds a tie to the even neighbour.

The search goes through the grids of one to seventeen digits. On each grid only the two
neighbours of the value can be nearest, so only they are tested, in exact arithmetic: the value
and the interval are fractions over one common denominator.

## Main definitions

* `Decimal` — a sign, digits and a scientific exponent
* `Dyadic` — an unsigned binary float and whether its lower neighbour is nearer
* `Tie` — which of two equally near decimals is taken
* `Dyadic.shortest` — the digits
* `Decimal.ofFloat?` — the shortest decimal of a float, absent for infinities and NaN
-/

namespace RpcSchema

/-! ### Decimals -/

/-- The decimal `± d.ddd * 10 ^ exponent`. -/
structure Decimal where
  negative : Bool
  /-- The digits, first one before the point; only zero has a leading zero. -/
  digits : List Nat
  exponent : Int
  deriving Repr, DecidableEq

namespace Decimal

/-- Which of two equally near decimals is taken. -/
inductive Tie
  | even
  | up
  deriving Repr, DecidableEq

/-- The decimal digits of a number, last digit first and none for zero; `fuel` bounds them. -/
def digitsRev : Nat → Nat → List Nat
  | 0, _ => []
  | fuel + 1, n => if n = 0 then [] else n % 10 :: digitsRev fuel (n / 10)

/-- The decimal digits of a number, most significant first and none for zero. A number has no
more digits than binary digits. -/
def digitsOf (n : Nat) : List Nat := (digitsRev (n.log2 + 1) n).reverse

/-! ### The interval that reads back -/

/-- The number `mantissa * 2 ^ exponent`. At a power of two the lower neighbour is half as far
away as the upper one, which `closeBelow` records. -/
structure Dyadic where
  mantissa : Nat
  exponent : Int
  closeBelow : Bool

/-- A value and the interval that rounds to it, all over the denominator `scale`. -/
structure Interval where
  value : Nat
  low : Nat
  high : Nat
  scale : Nat
  closed : Bool

/-- The interval of a number: half of the way to each neighbour, in quarters of the last place. -/
def Dyadic.interval (d : Dyadic) : Interval :=
  let up := Nat.pow 2 d.exponent.toNat
  let value := 4 * d.mantissa * up
  { value
    low := value - (if d.closeBelow then up else 2 * up)
    high := value + 2 * up
    scale := 4 * Nat.pow 2 (-d.exponent).toNat
    closed := d.mantissa % 2 = 0 }

/-- Whether `k * num / den` lies in the interval. -/
def Interval.holds (i : Interval) (num den k : Nat) : Bool :=
  let point := k * num * i.scale
  if i.closed then i.low * den ≤ point && point ≤ i.high * den
  else i.low * den < point && point < i.high * den

/-- The multiple of `num / den` that lies in the interval and is nearest to its value. -/
def Interval.nearest? (tie : Tie) (i : Interval) (num den : Nat) : Option Nat :=
  let below := i.value * den / (i.scale * num)
  let rest := i.value * den - below * num * i.scale
  let step := num * i.scale
  let preferBelow : Bool :=
    if 2 * rest = step then (match tie with | .even => below % 2 = 0 | .up => false)
    else 2 * rest < step
  match i.holds num den below, i.holds num den (below + 1) with
  | true, true => some (if preferBelow then below else below + 1)
  | true, false => some below
  | false, true => some (below + 1)
  | false, false => none

/-- The largest `e` with `10 ^ e ≤ value`. The binary logarithm gives a lower bound that at most
two steps correct. -/
def Interval.magnitude (i : Interval) : Int :=
  let bits := (i.value.log2 : Int) - i.scale.log2 - 1
  let start : Int := (bits * 30103).fdiv 100000 - 1
  let reaches (e : Int) : Bool :=
    i.scale * Nat.pow 10 e.toNat ≤ i.value * Nat.pow 10 (-e).toNat
  if reaches (start + 3) then start + 3
  else if reaches (start + 2) then start + 2
  else if reaches (start + 1) then start + 1
  else start

/-- The first grid from `10 ^ place` downwards, at most `count` of them, with a point in the
interval: the point and its place. -/
def Interval.firstGrid (tie : Tie) (i : Interval) : Nat → Int → Nat × Int
  | 0, place => (0, place)
  | count + 1, place =>
    match i.nearest? tie (Nat.pow 10 place.toNat) (Nat.pow 10 (-place).toNat) with
    | some k => (k, place)
    | none => i.firstGrid tie count (place - 1)

/-- The shortest digits of a positive number, as `k * 10 ^ place`. Seventeen digits always
suffice. -/
def Dyadic.shortest (tie : Tie) (d : Dyadic) : Nat × Int :=
  d.interval.firstGrid tie 17 d.interval.magnitude

/-! ### Floats -/

/-- The binary parts of a finite float, from its bits: a sign, eleven bits of exponent and
fifty-two of mantissa. Absent for infinities and NaN. -/
def dyadic? (bits : UInt64) : Option Dyadic :=
  let n := bits.toNat
  let biased : Nat := n / Nat.pow 2 52 % Nat.pow 2 11
  let fraction : Nat := n % Nat.pow 2 52
  if biased = 2047 then none
  else if biased = 0 then some ⟨fraction, -1074, false⟩
  else some ⟨Nat.pow 2 52 + fraction, (biased : Int) - 1075, fraction = 0 && 1 < biased⟩

/-- The digits of `k * 10 ^ place` without trailing zeros, and its scientific exponent. -/
def ofParts (negative : Bool) (k : Nat) (place : Int) : Decimal :=
  let digits := digitsOf k
  { negative
    digits := (digits.reverse.dropWhile (· = 0)).reverse
    exponent := place + digits.length - 1 }

/-- The shortest decimal that reads back as the float; absent for infinities and NaN. -/
def ofFloat? (tie : Tie) (x : Float) : Option Decimal :=
  let negative : Bool := Nat.pow 2 63 ≤ x.toBits.toNat
  (dyadic? x.toBits).map fun d =>
    if d.mantissa = 0 then ⟨negative, [0], 0⟩
    else
      let (k, place) := d.shortest tie
      ofParts negative k place

end Decimal

end RpcSchema
