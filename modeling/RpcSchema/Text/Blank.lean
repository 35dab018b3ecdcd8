/-!
# Blank characters

Which characters separate tokens: those with the Unicode property White_Space, a set of
twenty-five. Core's `Char.isWhitespace` knows only ASCII.

## Main definitions

* `Text.isBlank` — the class of separating characters
-/

namespace RpcSchema.Text

/-- White_Space: the ASCII controls `\t` to `\r`, the space, and nineteen characters beyond. -/
def isBlank (c : Char) : Bool :=
  let n := c.toNat
  (9 ≤ n && n ≤ 13) || n == 0x20 || n == 0x85 || n == 0xA0 || n == 0x1680 ||
    (0x2000 ≤ n && n ≤ 0x200A) || n == 0x2028 || n == 0x2029 || n == 0x202F || n == 0x205F ||
    n == 0x3000

end RpcSchema.Text
