import RpcSchema.Decimal.Shortest

/-!
# Written decimals

How a decimal is written: in plain positional notation, or with an exponent. The choice and the
details are a record, because each output format makes them differently.

## Main definitions

* `Layout` — the decisions of one output format
* `Decimal.write` — a decimal in such a format
-/

namespace RpcSchema.Decimal

/-- The decisions of one output format. -/
structure Layout where
  /-- The scientific exponents that are written positionally. -/
  positional : Int → Bool
  /-- Whether a whole number ends in `.0`. -/
  keepPoint : Bool

/-- A digit as a character. -/
def digitChar (d : Nat) : Char := Char.ofNat (48 + d)

/-- Digits as text. -/
def digitText (digits : List Nat) : String := String.ofList (digits.map digitChar)

/-- Plain notation: the point stands where the exponent says, with zeros to reach it. -/
def plain (keepPoint : Bool) (digits : List Nat) (exponent : Int) : String :=
  if exponent < 0 then
    "0." ++ digitText (List.replicate (-exponent - 1).toNat 0 ++ digits)
  else
    let whole := exponent.toNat + 1
    let padded := digits ++ List.replicate (whole - digits.length) 0
    let fraction := padded.drop whole
    digitText (padded.take whole) ++
      (if fraction.isEmpty then (if keepPoint then ".0" else "") else "." ++ digitText fraction)

/-- Scientific notation, with the sign of the exponent always written. -/
def scientific (digits : List Nat) (exponent : Int) : String :=
  digitText (digits.take 1) ++
    (if digits.length ≤ 1 then "" else "." ++ digitText (digits.drop 1)) ++
    "e" ++ (if exponent < 0 then "-" else "+") ++ toString exponent.natAbs

/-- A decimal written in a format. -/
def write (layout : Layout) (d : Decimal) : String :=
  (if d.negative then "-" else "") ++
    if layout.positional d.exponent then plain layout.keepPoint d.digits d.exponent
    else scientific d.digits d.exponent

end RpcSchema.Decimal
