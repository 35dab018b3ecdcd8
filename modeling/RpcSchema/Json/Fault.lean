/-!
# Faults in JSON text

Where a text stops being JSON, or being the value that is wanted, and how that is told to whoever
sent it. A place is known by what follows it. Most faults show at the next byte, which is part of
the place then; lines and columns count bytes, so a place can lie inside a character.

## Main definitions

* `Json.Mistake` — what can be wrong, with its wording
* `Json.Fault` — a mistake and its place
* `Json.Fault.describe` — the wording with line and column
-/

namespace RpcSchema.Json

/-! ### Mistakes -/

/-- What can be wrong with a text. -/
inductive Mistake
  | endInList
  | endInObject
  | endInString
  | endInValue
  | expectedColon
  | expectedListEnd
  | expectedObjectEnd
  | expectedWord
  | expectedValue
  | badEscape
  | badNumber
  | numberOutOfRange
  | controlCharacter
  | keyNotString
  | loneSurrogate
  | trailingComma
  | trailingCharacters
  | halfSurrogatePair
  | tooDeep
  /-- something else than the value that is wanted -/
  | wrongType (found expected : String)
  | missingField (name : String)
  | repeatedField (name : String)
  | tooShort (length : Nat) (expected : String)
  deriving Repr, DecidableEq

/-- The wording of a mistake. -/
def Mistake.message : Mistake → String
  | .endInList => "EOF while parsing a list"
  | .endInObject => "EOF while parsing an object"
  | .endInString => "EOF while parsing a string"
  | .endInValue => "EOF while parsing a value"
  | .expectedColon => "expected `:`"
  | .expectedListEnd => "expected `,` or `]`"
  | .expectedObjectEnd => "expected `,` or `\x7d`"
  | .expectedWord => "expected ident"
  | .expectedValue => "expected value"
  | .badEscape => "invalid escape"
  | .badNumber => "invalid number"
  | .numberOutOfRange => "number out of range"
  | .controlCharacter => "control character (\\u0000-\\u001F) found while parsing a string"
  | .keyNotString => "key must be a string"
  | .loneSurrogate => "lone leading surrogate in hex escape"
  | .trailingComma => "trailing comma"
  | .trailingCharacters => "trailing characters"
  | .halfSurrogatePair => "unexpected end of hex escape"
  | .tooDeep => "recursion limit exceeded"
  | .wrongType found expected => "invalid type: " ++ found ++ ", expected " ++ expected
  | .missingField name => "missing field `" ++ name ++ "`"
  | .repeatedField name => "duplicate field `" ++ name ++ "`"
  | .tooShort length expected =>
    "invalid length " ++ toString length ++ ", expected " ++ expected

/-! ### Places -/

/-- A mistake and its place: some bytes into what follows. -/
structure Fault where
  mistake : Mistake
  rest : List Char
  offset : Nat
  deriving Repr, DecidableEq

/-- A mistake that shows before what follows. -/
def Fault.here (mistake : Mistake) (rest : List Char) : Fault := ⟨mistake, rest, 0⟩

/-- A mistake that shows at the next byte, if there is one. -/
def Fault.next (mistake : Mistake) (rest : List Char) : Fault :=
  ⟨mistake, rest, if rest.isEmpty then 0 else 1⟩

/-- The number of bytes of some characters. -/
def byteCount (cs : List Char) : Nat := cs.foldr (fun c n => c.utf8Size + n) 0

/-- The number of bytes of a text before the place of a fault. -/
def Fault.position (fault : Fault) (text : String) : Nat :=
  text.utf8ByteSize - byteCount fault.rest + fault.offset

/-- The wording of a fault with its place. Lines count from one and columns from zero. -/
def Fault.describe (fault : Fault) (text : String) : String :=
  let before := text.toUTF8.toList.take (fault.position text)
  let line := before.count 10 + 1
  let column := (before.reverse.takeWhile (· != 10)).length
  fault.mistake.message ++ " at line " ++ toString line ++ " column " ++ toString column

end RpcSchema.Json
