import RpcSchema.Decimal.Reading

/-!
# Numbers written by people

Numbers in option text and settings: signed and unsigned words, and floats with an optional
exponent or by name. A sign may come first and nothing else may: no blanks and no separators.

## Main definitions

* `Decimal.natural?`, `Decimal.integer?` — words, within given bounds
* `Decimal.float?` — floats
-/

namespace RpcSchema.Decimal

/-- The number that decimal digits write; at least one is needed. -/
def digits? (cs : List Char) : Option Nat :=
  if !cs.isEmpty && cs.all Char.isDigit then
    some (cs.foldl (fun n c => 10 * n + (c.toNat - 48)) 0)
  else none

/-- A text without its sign, and whether the sign was a minus. -/
def signed : List Char → Bool × List Char
  | '-' :: rest => (true, rest)
  | '+' :: rest => (false, rest)
  | cs => (false, cs)

/-- An unsigned number below a bound. A plus may come first. -/
def natural? (bound : Nat) (text : String) : Option Nat := do
  let digits := match text.toList with
    | '+' :: rest => rest
    | cs => cs
  let n ← digits? digits
  guard (n < bound)
  return n

/-- A signed word. -/
def integer? (text : String) : Option Int64 := do
  let (negative, digits) := signed text.toList
  let n : Int ← digits? digits
  let n := if negative then -n else n
  guard (Int64.minValue.toInt ≤ n && n ≤ Int64.maxValue.toInt)
  return .ofInt n

/-- The names of values without digits, in any case. -/
def namedFloat? (cs : List Char) : Option Float :=
  let name := String.ofList (cs.map Char.toLower)
  if name = "inf" || name = "infinity" then some infinity
  else if name = "nan" then some nan
  else none

/-- Digits with an optional point; a digit must stand on one side of it. They are given as a whole
number and the count of digits after the point. -/
def mantissa? (cs : List Char) : Option (Nat × Nat) :=
  let whole := cs.takeWhile (· != '.')
  let fraction := (cs.dropWhile (· != '.')).drop 1
  (digits? (whole ++ fraction)).map (·, fraction.length)

/-- A whole number with an optional sign. -/
def exponent? (cs : List Char) : Option Int := do
  let (negative, digits) := signed cs
  let n : Int ← digits? digits
  return if negative then -n else n

/-- A float. One beyond the largest finite float is infinite. -/
def float? (text : String) : Option Float := do
  let (negative, cs) := signed text.toList
  match namedFloat? cs with
  | some x => return if negative then -x else x
  | none =>
    let isMark (c : Char) : Bool := c = 'e' || c = 'E'
    let (mantissa, places) ← mantissa? (cs.takeWhile (!isMark ·))
    let exponent ← match cs.dropWhile (!isMark ·) with
      | [] => some 0
      | _ :: rest => exponent? rest
    return toFloat negative mantissa (exponent - places)

end RpcSchema.Decimal
