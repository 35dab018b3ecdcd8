import RpcSchema.Text.Printable

/-!
# Text literals

A text between double quotes, as diagnostics show it: on one line, and so that every character can
be told from every other. The quote and the backslash get a backslash, the common controls their
letters, and every other character that cannot be shown its code point.

## Main definitions

* `Text.literal` — the literal of a text
-/

namespace RpcSchema.Text

/-- A number in hexadecimal, in lower case and without leading zeros. -/
def hexText (n : Nat) : List Char := Nat.toDigits 16 n

/-- A character inside a literal. -/
def literalChar (c : Char) : List Char :=
  match c with
  | '\x00' => ['\\', '0']
  | '\t' => ['\\', 't']
  | '\n' => ['\\', 'n']
  | '\r' => ['\\', 'r']
  | '"' => ['\\', '"']
  | '\\' => ['\\', '\\']
  | c =>
    if isPrintable c then [c] else ['\\', 'u', '\x7b'] ++ hexText c.toNat ++ ['\x7d']

/-- The literal of a text. -/
def literal (text : String) : String :=
  "\"" ++ String.ofList (text.toList.flatMap literalChar) ++ "\""

end RpcSchema.Text
