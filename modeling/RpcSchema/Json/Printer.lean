import RpcSchema.Decimal.Layout
import RpcSchema.Json.Basic

/-!
# Written JSON

The compact form of a value, without blanks, and the indented form with two blanks a level. In
both a string is written raw but for the quote, the backslash and the control characters; an
empty array or object stays on one line.

## Main definitions

* `Json.quoted` — a string literal
* `Json.floatLayout` — how floats are written
* `Json.compact` — a value on one line
* `Json.indented` — a value over several lines
-/

namespace RpcSchema.Json

open RpcSchema.Decimal

/-! ### Scalars -/

/-- A hexadecimal digit in lower case. -/
def hexChar (n : Nat) : Char := if n < 10 then Char.ofNat (48 + n) else Char.ofNat (87 + n)

/-- A character inside a string literal: short escapes where they exist, `\u00xx` for the other
control characters, and everything else raw. -/
def escapeChar (c : Char) : List Char :=
  match c with
  | '"' => ['\\', '"']
  | '\\' => ['\\', '\\']
  | '\x08' => ['\\', 'b']
  | '\x09' => ['\\', 't']
  | '\x0a' => ['\\', 'n']
  | '\x0c' => ['\\', 'f']
  | '\x0d' => ['\\', 'r']
  | c =>
    if c.toNat < 32 then ['\\', 'u', '0', '0', hexChar (c.toNat / 16), hexChar (c.toNat % 16)]
    else [c]

/-- A string literal. -/
def quoted (text : String) : String :=
  "\"" ++ String.ofList (text.toList.flatMap escapeChar) ++ "\""

/-- Floats from `10 ^ -5` up to `10 ^ 16` are written positionally and keep their point. -/
def floatLayout : Layout := ⟨fun e => -5 ≤ e && e < 16, true⟩

/-- A float; infinities and NaN have no JSON form and are written as `null`. -/
def floatText (x : Float) : String :=
  match ofFloat? .even x with
  | some d => d.write floatLayout
  | none => "null"

/-! ### The compact form -/

mutual

/-- A value on one line. -/
def compact : Json → String
  | .null => "null"
  | .bool b => if b then "true" else "false"
  | .int n => toString n
  | .float x => floatText x
  | .string s => quoted s
  | .array items => "[" ++ ",".intercalate (compactItems items) ++ "]"
  | .object members => "\x7b" ++ ",".intercalate (compactMembers members) ++ "\x7d"

/-- The items of an array. -/
def compactItems : List Json → List String
  | [] => []
  | item :: rest => compact item :: compactItems rest

/-- The members of an object, each as `"key":value`. -/
def compactMembers : List (String × Json) → List String
  | [] => []
  | (key, value) :: rest => (quoted key ++ ":" ++ compact value) :: compactMembers rest

end

/-! ### The indented form -/

/-- A bracketed sequence with one part a line, or the bare brackets if there is no part. -/
def bracketed (opener closer margin : String) (parts : List String) : String :=
  if parts.isEmpty then opener ++ closer
  else opener ++ "\n" ++ ",\n".intercalate (parts.map (margin ++ "  " ++ ·)) ++ "\n" ++ margin ++
    closer

mutual

/-- A value over several lines, whose nested lines start with `margin`. -/
def indentedAt (margin : String) : Json → String
  | .array items => bracketed "[" "]" margin (indentedItems (margin ++ "  ") items)
  | .object members =>
    bracketed "\x7b" "\x7d" margin (indentedMembers (margin ++ "  ") members)
  | value => value.compact

/-- The items of an array. -/
def indentedItems (margin : String) : List Json → List String
  | [] => []
  | item :: rest => indentedAt margin item :: indentedItems margin rest

/-- The members of an object, each as `"key": value`. -/
def indentedMembers (margin : String) : List (String × Json) → List String
  | [] => []
  | (key, value) :: rest =>
    (quoted key ++ ": " ++ indentedAt margin value) :: indentedMembers margin rest

end

/-- A value over several lines. -/
def indented (value : Json) : String := indentedAt "" value

end RpcSchema.Json
