import RpcSchema.Json.Fault
import RpcSchema.Json.Printer
import RpcSchema.Json.Reader
import RpcSchema.Text.Literal

/-!
# JSON passed over from left to right

Passes over the values of a text up to the first fault. It is a reader for the sake of its
faults: it keeps nothing, and where `Json.parse?` only says that a text is no JSON, it says where
the text went wrong.

A value that is kept must stand for something. In a value that is skipped a number may have any
size, an escape any code and nesting any depth, and a comma just asks for more.

## Main definitions

* `Care` — whether a value is kept
* `Scan.string`, `Scan.number`, `Scan.word` — scalars
* `Scan.value` — any value
* `Scan.wrongType` — the fault of a value that should have been something else
-/

namespace RpcSchema.Json

/-- What follows a part of a text, unless there is a fault in it. -/
abbrev Scan := Except Fault (List Char)

/-- Whether what is passed over is kept. -/
inductive Care
  | kept
  | skipped
  deriving Repr, DecidableEq

/-- The mistake of a number that ends too early. -/
def Care.early : Care → Mistake
  | .kept => .endInValue
  | .skipped => .badNumber

/-- A fault before what follows. -/
def failHere (mistake : Mistake) (rest : List Char) : Except Fault α :=
  .error (.here mistake rest)

/-- A fault at the next byte. -/
def failNext (mistake : Mistake) (rest : List Char) : Except Fault α :=
  .error (.next mistake rest)

namespace Scan

/-- A text without its leading blanks. -/
def blanks (cs : List Char) : List Char := cs.dropWhile Token.isBlank

/-! ### Strings -/

/-- The code of four hexadecimal digits. -/
def hexCode (cs : List Char) : Except Fault (Nat × List Char) :=
  if byteCount cs < 4 then failHere .endInString []
  else
    match cs.take 4 |>.mapM Token.hexDigit? with
    | some [a, b, c, d] => .ok (((a * 16 + b) * 16 + c) * 16 + d, cs.drop 4)
    | _ => .error ⟨.badEscape, cs, 4⟩

/-- The second half of a surrogate pair. -/
def trailing : List Char → Scan
  | [] => failHere .endInString []
  | '\\' :: [] => failHere .endInString []
  | '\\' :: 'u' :: rest => do
    let (code, rest) ← hexCode rest
    if Token.isTrailing code then return rest else failHere .loneSurrogate rest
  | '\\' :: rest => failNext .halfSurrogatePair rest
  | rest => failNext .halfSurrogatePair rest

/-- What follows the backslash of an escape. -/
def escape (care : Care) : List Char → Scan
  | [] => failHere .endInString []
  | 'u' :: rest => do
    let (code, rest) ← hexCode rest
    match care with
    | .skipped => return rest
    | .kept =>
      if Token.isTrailing code then failHere .loneSurrogate rest
      else if Token.isLeading code then trailing rest
      else return rest
  | c :: rest =>
    if (Token.shortEscape? c).isSome then .ok rest else failNext .badEscape (c :: rest)

/-- A string after its opening quote, of at most `fuel` characters and escapes. -/
def stringWithin (care : Care) : Nat → List Char → Scan
  | 0, _ => failHere .endInString []
  | fuel + 1, cs =>
    match cs with
    | [] => failHere .endInString []
    | '"' :: rest => .ok rest
    | '\\' :: rest => do stringWithin care fuel (← escape care rest)
    | c :: rest =>
      if 32 ≤ c.toNat then stringWithin care fuel rest
      else
        match care with
        | .kept => failNext .controlCharacter cs
        | .skipped => failHere .controlCharacter cs

/-- A string after its opening quote. -/
def string (care : Care) (cs : List Char) : Scan := stringWithin care (cs.length + 1) cs

/-- The text of a string after its opening quote. -/
def stringText? (cs : List Char) : Option String := do
  let (pieces, _) ← Token.pieces? cs
  return String.ofList (← Token.pieceChars? pieces)

/-! ### Numbers and words -/

/-- The exponent of a number, if it has one. -/
def exponent (care : Care) : List Char → Scan
  | c :: rest =>
    if c = 'e' || c = 'E' then
      let digits : List Char := match rest with
        | '+' :: rest => rest
        | '-' :: rest => rest
        | rest => rest
      match digits with
      | [] => failHere care.early []
      | d :: more =>
        if d.isDigit then .ok (more.dropWhile Char.isDigit) else failNext .badNumber digits
    else .ok (c :: rest)
  | [] => .ok []

/-- What follows the whole digits of a number. -/
def fraction (care : Care) : List Char → Scan
  | '.' :: [] => failHere care.early []
  | '.' :: d :: rest =>
    if d.isDigit then exponent care (rest.dropWhile Char.isDigit)
    else failNext .badNumber (d :: rest)
  | cs => exponent care cs

/-- A number without its sign. A zero stands alone. -/
def digits (care : Care) : List Char → Scan
  | [] => failHere care.early []
  | '0' :: d :: rest =>
    if d.isDigit then failNext .badNumber (d :: rest) else fraction care (d :: rest)
  | d :: rest =>
    if d.isDigit then fraction care (rest.dropWhile Char.isDigit)
    else failNext .badNumber (d :: rest)

/-- The number that a text starts with, if its literal stands for one. -/
def numberOf? (cs : List Char) : Option Number :=
  (Token.literal? cs).bind fun (literal, _) => literal.number?

/-- A number with its sign. One that is kept must be a number of this machine. -/
def number (care : Care) (cs : List Char) : Scan := do
  let rest ← digits care (match cs with
    | '-' :: rest => rest
    | rest => rest)
  if care = .kept && (numberOf? cs).isNone then failHere .numberOutOfRange rest
  else return rest

/-- A given word. -/
def word : List Char → List Char → Scan
  | [], cs => .ok cs
  | _ :: _, [] => failHere .endInValue []
  | expected :: more, c :: rest =>
    if c = expected then word more rest else failNext .expectedWord (c :: rest)

/-- A value that is no container. -/
def scalar (care : Care) : List Char → Scan
  | [] => failHere .endInValue []
  | 'n' :: rest => word ['u', 'l', 'l'] rest
  | 't' :: rest => word ['r', 'u', 'e'] rest
  | 'f' :: rest => word ['a', 'l', 's', 'e'] rest
  | '"' :: rest => string care rest
  | c :: rest =>
    if c = '-' || c.isDigit then number care (c :: rest) else failNext .expectedValue (c :: rest)

/-! ### Containers -/

/-- A container that is open. -/
inductive Bracket
  | array
  | object
  deriving Repr, DecidableEq

/-- What may come next. -/
inductive Await
  | value
  /-- the first part of the innermost container, or its end -/
  | first
  /-- a comma or the end of the innermost container -/
  | next
  deriving Repr, DecidableEq

/-- A key after its opening quote, and the colon after it. -/
def key (care : Care) (cs : List Char) : Scan := do
  match blanks (← string care cs) with
  | ':' :: rest => return rest
  | rest => if rest.isEmpty then failHere .endInObject [] else failNext .expectedColon rest

/-- What follows the comma after a member: the next key with its opening quote. -/
def memberStart (care : Care) (cs : List Char) : Scan :=
  match care, blanks cs with
  | _, '"' :: rest => .ok rest
  | .kept, [] => failHere .endInValue []
  | .skipped, [] => failHere .endInObject []
  | .kept, '\x7d' :: rest => failNext .trailingComma ('\x7d' :: rest)
  | _, rest => failNext .keyNotString rest

/-- What follows the comma after an item: the next item. -/
def itemStart (care : Care) (cs : List Char) : Scan :=
  match care, blanks cs with
  | .kept, [] => failHere .endInValue []
  | .kept, ']' :: rest => failNext .trailingComma (']' :: rest)
  | _, rest => .ok rest

/-- One part of a value: what is open, what may come next and what follows. A value that is kept
may open at most `depth` containers at once. -/
def step (care : Care) (depth : Nat) (stack : List Bracket) :
    Await → List Char → Except Fault (List Bracket × Await × List Char)
  | .value, cs =>
    let opened (bracket : Bracket) (rest : List Char) :=
      if care = .kept && depth ≤ stack.length then failNext .tooDeep cs
      else .ok (bracket :: stack, .first, rest)
    match cs with
    | '[' :: rest => opened .array rest
    | '\x7b' :: rest => opened .object rest
    | cs => (scalar care cs).map (stack, .next, ·)
  | .first, cs =>
    match stack, cs with
    | .array :: _, [] => failHere .endInList []
    | .array :: outer, ']' :: rest => .ok (outer, .next, rest)
    | .array :: _, cs => .ok (stack, .value, cs)
    | .object :: _, [] => failHere .endInObject []
    | .object :: outer, '\x7d' :: rest => .ok (outer, .next, rest)
    | .object :: _, '"' :: rest => (key care rest).map (stack, .value, ·)
    | .object :: _, cs => failNext .keyNotString cs
    | [], cs => .ok ([], .next, cs)
  | .next, cs =>
    match stack, cs with
    | .array :: _, [] => failHere .endInList []
    | .array :: outer, ']' :: rest => .ok (outer, .next, rest)
    | .array :: _, ',' :: rest => (itemStart care rest).map (stack, .value, ·)
    | .array :: _, cs => failNext .expectedListEnd cs
    | .object :: _, [] => failHere .endInObject []
    | .object :: outer, '\x7d' :: rest => .ok (outer, .next, rest)
    | .object :: _, ',' :: rest => do
      return (stack, .value, ← key care (← memberStart care rest))
    | .object :: _, cs => failNext .expectedObjectEnd cs
    | [], cs => .ok ([], .next, cs)

/-- The rest of a value, in at most `fuel` steps. -/
def go (care : Care) (depth : Nat) : Nat → List Bracket → Await → List Char → Scan
  | 0, _, _, cs => failHere .expectedValue cs
  | fuel + 1, stack, await, cs =>
    match stack, await with
    | [], .next => .ok cs
    | stack, await => do
      let (stack, await, rest) ← step care depth stack await (blanks cs)
      go care depth fuel stack await rest

/-- A value. Every step but the last takes a character, or turns from the start of an array to
its first item. -/
def value (care : Care) (depth : Nat) (cs : List Char) : Scan :=
  go care depth (2 * cs.length + 2) [] .value cs

/-! ### Values of a wrong type -/

/-- A number as it is named. -/
def numberName : Number → String
  | .int n => "integer `" ++ toString n ++ "`"
  | .float x => "floating point `" ++ floatText x ++ "`"

/-- The value that a text starts with as it is named, and what follows its name. A container is
named before it is entered. -/
def named (cs : List Char) : Except Fault (String × List Char) :=
  match cs with
  | 'n' :: rest => (word ['u', 'l', 'l'] rest).map ("null", ·)
  | 't' :: rest => (word ['r', 'u', 'e'] rest).map ("boolean `true`", ·)
  | 'f' :: rest => (word ['a', 'l', 's', 'e'] rest).map ("boolean `false`", ·)
  | '"' :: rest => do
    let after ← string .kept rest
    return ("string " ++ Text.literal ((stringText? rest).getD ""), after)
  | '[' :: _ => .ok ("sequence", cs)
  | '\x7b' :: _ => .ok ("map", cs)
  | [] => failHere .endInValue []
  | c :: _ => do
    if c = '-' || c.isDigit then
      let after ← number .kept cs
      return (((numberOf? cs).map numberName).getD "", after)
    else failNext .expectedValue cs

/-- The fault of a value where something else is wanted. -/
def wrongType (expected : String) (cs : List Char) : Fault :=
  match named cs with
  | .ok (found, rest) => .here (.wrongType found expected) rest
  | .error fault => fault

end Scan

end RpcSchema.Json
