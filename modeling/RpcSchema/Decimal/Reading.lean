/-!
# Decimals read as binary floats

A decimal `m * 10 ^ e` is read as the nearest float, a tie going to the even neighbour. Exponents
far outside the range of floats are settled before any power of ten is computed, so the work is
bounded by the length of the digits.

## Main definitions

* `Decimal.toFloat` — the nearest float; beyond the largest one, infinity
* `Decimal.infinity`, `Decimal.nan` — the values no digits stand for
-/

namespace RpcSchema.Decimal

/-- Positive infinity. -/
def infinity : Float := Float.ofBits 0x7FF0000000000000

/-- The quiet NaN. -/
def nan : Float := Float.ofBits 0x7FF8000000000000

/-- The float nearest to `± mantissa * 10 ^ exponent`. A number below `10 ^ -400` reads as zero
and one from `10 ^ 310` on as infinity, which spares the powers of ten of absurd exponents. -/
def toFloat (negative : Bool) (mantissa : Nat) (exponent : Int) : Float :=
  let magnitude := exponent + (mantissa.log2 * 30103 / 100000 : Nat)
  let size : Float :=
    if mantissa = 0 || magnitude < -400 then 0.0
    else if 310 < magnitude then infinity
    else Float.ofScientific mantissa (exponent < 0) exponent.natAbs
  if negative then -size else size

end RpcSchema.Decimal
