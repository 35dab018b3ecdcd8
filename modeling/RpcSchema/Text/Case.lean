import RpcSchema.Text.CaseData

/-!
# Letter case

Upper and lower case of characters and of whole texts. ASCII goes by rule and everything else
by the tables of `CaseData`, so a proof about ASCII names never opens a table.

A text is lowered character by character with one exception: a capital sigma that ends a word
becomes the final form `ς`. It ends a word when the nearest character before it that case
context does not look through is a letter with case, and the nearest one after it is not.

## Main definitions

* `Text.isUpper`, `Text.isLower`, `Text.isCased`, `Text.isCaseIgnorable` — properties
* `Text.upper`, `Text.lower` — the full case mappings of one character
* `Text.toUpper`, `Text.toLower` — the mappings of a text
-/

namespace RpcSchema.Text

/-- The characters of the first 128 code points. -/
def isAscii (c : Char) : Bool := c.toNat < 128

/-! ### Properties -/

/-- The derived property Uppercase. -/
def isUpper (c : Char) : Bool :=
  if isAscii c then c.isUpper else inSpans upperSpans c.toNat

/-- The derived property Lowercase. -/
def isLower (c : Char) : Bool :=
  if isAscii c then c.isLower else inSpans lowerSpans c.toNat

/-- Letters with case: upper, lower or title case. -/
def isCased (c : Char) : Bool :=
  isUpper c || isLower c || (!isAscii c && inSpans titleSpans c.toNat)

/-- Characters that do not end the search for a neighbouring letter; of ASCII these are the
apostrophe, the full stop, the colon, the circumflex and the grave accent. -/
def isCaseIgnorable (c : Char) : Bool :=
  if isAscii c then [0x27, 0x2E, 0x3A, 0x5E, 0x60].contains c.toNat
  else inSpans ignorableSpans c.toNat

/-! ### Mappings -/

/-- A mapping made of expansions, tried first, and shifts; other characters stay. -/
private def mapped (expansions : List (Nat × List Nat)) (shifts : List Shift) (c : Char) :
    List Char :=
  match expansions.lookup c.toNat with
  | some codes => codes.map Char.ofNat
  | none => [((shifted? shifts c.toNat).map Char.ofNat).getD c]

/-- The upper case of a character, which may be several characters. -/
def upper (c : Char) : List Char :=
  if isAscii c then [c.toUpper] else mapped upperExpansions upperShifts c

/-- The lower case of a character, which may be several characters. -/
def lower (c : Char) : List Char :=
  if isAscii c then [c.toLower] else mapped lowerExpansions lowerShifts c

/-- The upper case of a text. -/
def toUpper (cs : List Char) : List Char := cs.flatMap upper

/-- Whether the first character that case context does not look through has case. -/
def meetsCased (cs : List Char) : Bool :=
  match cs.dropWhile isCaseIgnorable with
  | [] => false
  | c :: _ => isCased c

/-- The lower case of a text whose preceding characters, nearest first, are `before`. -/
def lowerAfter (before : List Char) : List Char → List Char
  | [] => []
  | c :: cs =>
    (if c = 'Σ' then [if meetsCased before && !meetsCased cs then 'ς' else 'σ'] else lower c) ++
      lowerAfter (c :: before) cs

/-- The lower case of a text. -/
def toLower (cs : List Char) : List Char := lowerAfter [] cs

end RpcSchema.Text
