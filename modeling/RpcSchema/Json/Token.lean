import RpcSchema.Decimal.Reading

/-!
# JSON tokens

The first half of reading JSON: a text as its tokens. Only four blanks separate tokens. A token
may be well formed and still stand for nothing: a number beyond the largest float, or a string
with half of a surrogate pair. Such a token is kept without a value, because the value of an
unknown key is skipped without being looked at.

## Main definitions

* `Json.Token` — a token
* `Json.Token.next?` — the first token of a text and what follows it
* `Json.Token.all?` — all tokens of a text
-/

namespace RpcSchema.Json

/-- A number as JSON tells them apart. -/
inductive Number
  | int (value : Int)
  | float (value : Float)

/-- A token. The value of a number or string is absent if the literal stands for none. -/
inductive Token
  | openBrace
  | closeBrace
  | openBracket
  | closeBracket
  | colon
  | comma
  | null
  | bool (value : Bool)
  | number (value : Option Number)
  | string (value : Option String)

namespace Token

/-! ### Strings -/

/-- The value of a hexadecimal digit. -/
def hexDigit? (c : Char) : Option Nat :=
  if c.isDigit then some (c.toNat - 48)
  else if 'a' ≤ c && c ≤ 'f' then some (c.toNat - 87)
  else if 'A' ≤ c && c ≤ 'F' then some (c.toNat - 55)
  else none

/-- A unit of a string literal: a character, or a sixteen-bit code written as `\uXXXX`. -/
inductive Piece
  | char (c : Char)
  | code (n : Nat)

/-- The character of a short escape. -/
def shortEscape? : Char → Option Char
  | '"' => some '"'
  | '\\' => some '\\'
  | '/' => some '/'
  | 'b' => some '\x08'
  | 'f' => some '\x0c'
  | 'n' => some '\n'
  | 'r' => some '\x0d'
  | 't' => some '\t'
  | _ => none

/-- The pieces up to the closing quote and the text after it. A raw control character is not
allowed. -/
def pieces? : List Char → Option (List Piece × List Char)
  | [] => none
  | '"' :: rest => some ([], rest)
  | '\\' :: 'u' :: a :: b :: c :: d :: rest => do
    let code := ((← hexDigit? a) * 16 + (← hexDigit? b)) * 256 +
      ((← hexDigit? c) * 16 + (← hexDigit? d))
    let (more, rest) ← pieces? rest
    return (.code code :: more, rest)
  | '\\' :: c :: rest => do
    let c ← shortEscape? c
    let (more, rest) ← pieces? rest
    return (.char c :: more, rest)
  | c :: rest => do
    guard (32 ≤ c.toNat)
    let (more, rest) ← pieces? rest
    return (.char c :: more, rest)

/-- The first code of a surrogate pair. -/
def isLeading (n : Nat) : Bool := 0xD800 ≤ n && n < 0xDC00

/-- The second code of a surrogate pair. -/
def isTrailing (n : Nat) : Bool := 0xDC00 ≤ n && n < 0xE000

/-- The characters of the pieces: a surrogate pair is one character, and half of one is none. -/
def pieceChars? : List Piece → Option (List Char)
  | [] => some []
  | .char c :: rest => (pieceChars? rest).map (c :: ·)
  | .code hi :: .code lo :: rest =>
    if isLeading hi && isTrailing lo then
      (pieceChars? rest).map (Char.ofNat (0x10000 + (hi - 0xD800) * 0x400 + (lo - 0xDC00)) :: ·)
    else if isLeading hi || isTrailing hi then none
    else (pieceChars? (.code lo :: rest)).map (Char.ofNat hi :: ·)
  | .code n :: rest =>
    if isLeading n || isTrailing n then none else (pieceChars? rest).map (Char.ofNat n :: ·)

/-! ### Numbers -/

/-- The number that decimal digits write. -/
def digitsValue (digits : List Char) : Nat :=
  digits.foldl (fun n c => 10 * n + (c.toNat - 48)) 0

/-- The parts of a number literal. -/
structure Literal where
  negative : Bool
  whole : List Char
  /-- The digits after the point, if there is one. -/
  fraction : Option (List Char)
  /-- The exponent, if there is one. -/
  exponent : Option Int

/-- The whole digits: a zero stands alone. -/
def whole? : List Char → Option (List Char × List Char)
  | '0' :: rest => some (['0'], rest)
  | cs => if (cs.takeWhile Char.isDigit).isEmpty then none
    else some (cs.takeWhile Char.isDigit, cs.dropWhile Char.isDigit)

/-- The digits after a point, which must not be missing. -/
def fraction? : List Char → Option (Option (List Char) × List Char)
  | '.' :: rest => if (rest.takeWhile Char.isDigit).isEmpty then none
    else some (some (rest.takeWhile Char.isDigit), rest.dropWhile Char.isDigit)
  | cs => some (none, cs)

/-- The exponent after its mark, with an optional sign; its digits must not be missing. -/
def exponent? : List Char → Option (Option Int × List Char)
  | c :: rest =>
    if c = 'e' || c = 'E' then
      let (negative, digits) : Bool × List Char := match rest with
        | '-' :: rest => (true, rest)
        | '+' :: rest => (false, rest)
        | rest => (false, rest)
      let n : Int := digitsValue (digits.takeWhile Char.isDigit)
      if (digits.takeWhile Char.isDigit).isEmpty then none
      else some (some (if negative then -n else n), digits.dropWhile Char.isDigit)
    else some (none, c :: rest)
  | [] => some (none, [])

/-- A number literal and the text after it. -/
def literal? (cs : List Char) : Option (Literal × List Char) := do
  let (negative, rest) : Bool × List Char := match cs with
    | '-' :: rest => (true, rest)
    | rest => (false, rest)
  let (whole, rest) ← whole? rest
  let (fraction, rest) ← fraction? rest
  let (exponent, rest) ← exponent? rest
  return (⟨negative, whole, fraction, exponent⟩, rest)

/-- The number of a literal. Without point and exponent it is an integer if it fits into a signed
or unsigned word and is not a negative zero; otherwise it is a float, unless it overflows. -/
def Literal.number? (l : Literal) : Option Number :=
  let n := digitsValue l.whole
  if l.fraction.isNone && l.exponent.isNone &&
      (if l.negative then 0 < n && Int64.minValue.toInt ≤ -(n : Int) else n < UInt64.size) then
    some (.int (if l.negative then -n else n))
  else
    let fraction := l.fraction.getD []
    let x := Decimal.toFloat l.negative (digitsValue (l.whole ++ fraction))
      (l.exponent.getD 0 - fraction.length)
    if x.isFinite then some (.float x) else none

/-! ### Tokens -/

/-- The blanks of JSON. -/
def isBlank (c : Char) : Bool := c = ' ' || c = '\t' || c = '\n' || c = '\x0d'

/-- The first token of a text without leading blanks, and the text after it. -/
def next? : List Char → Option (Token × List Char)
  | '\x7b' :: rest => some (.openBrace, rest)
  | '\x7d' :: rest => some (.closeBrace, rest)
  | '[' :: rest => some (.openBracket, rest)
  | ']' :: rest => some (.closeBracket, rest)
  | ':' :: rest => some (.colon, rest)
  | ',' :: rest => some (.comma, rest)
  | '"' :: rest => (pieces? rest).map fun (pieces, rest) =>
    (.string ((pieceChars? pieces).map String.ofList), rest)
  | 'n' :: 'u' :: 'l' :: 'l' :: rest => some (.null, rest)
  | 't' :: 'r' :: 'u' :: 'e' :: rest => some (.bool true, rest)
  | 'f' :: 'a' :: 'l' :: 's' :: 'e' :: rest => some (.bool false, rest)
  | cs => (literal? cs).map fun (l, rest) => (.number l.number?, rest)

/-- The tokens of a text, at most `fuel` of them; absent if the text holds anything else. -/
def allWithin? : Nat → List Char → Option (List Token)
  | 0, _ => none
  | fuel + 1, cs =>
    match cs.dropWhile isBlank with
    | [] => some []
    | c :: rest => do
      let (token, rest) ← next? (c :: rest)
      return token :: (← allWithin? fuel rest)

/-- The tokens of a text. Each takes at least one character, so the length bounds their
number. -/
def all? (cs : List Char) : Option (List Token) := allWithin? (cs.length + 1) cs

end Token

end RpcSchema.Json
