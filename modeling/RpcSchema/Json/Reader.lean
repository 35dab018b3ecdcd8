import RpcSchema.Json.Basic
import RpcSchema.Json.Token

/-!
# JSON read from text

The second half of reading JSON. The tokens of a text form a tree, and the tree stands for a
value. The two are kept apart because they fail for different reasons: a tree may hold literals
without a value, repeated keys and any depth of nesting, all of which is harmless in a part that
nobody asks for.

The tree is built by one pass over the tokens with a stack of open containers, so it is plain
recursion on the token list.

## Main definitions

* `Json.Tree` — the tree of a text
* `Json.Tree.ofTokens?` — the tree that a list of tokens forms
* `Json.Tree.value?` — the value of a tree, within a bound on nesting
* `Json.parse?` — the value of a text
-/

namespace RpcSchema.Json

/-- The tree of a JSON text, with literals that may stand for nothing and keys that may repeat. -/
inductive Tree
  | null
  | bool (value : Bool)
  | number (value : Option Number)
  | string (value : Option String)
  | array (items : List Tree)
  | object (members : List (Option String × Tree))

namespace Tree

/-! ### Trees of tokens -/

/-- A container whose end has not been read, with what it holds so far, last part first. -/
inductive Frame
  | array (items : List Tree)
  | object (members : List (Option String × Tree)) (key : Option String)

/-- What may come next. -/
inductive Await
  /-- a value -/
  | value
  /-- a value or the end of the array just opened -/
  | item
  /-- a key, after the members read so far -/
  | key (members : List (Option String × Tree))
  /-- a key or the end of the object just opened -/
  | member
  /-- the colon after a key -/
  | colon (members : List (Option String × Tree)) (key : Option String)
  /-- a comma or the end of the innermost container, after the given value -/
  | next (value : Tree)

/-- The value that a token is by itself. -/
def scalar? : Token → Option Tree
  | .null => some .null
  | .bool b => some (.bool b)
  | .number n => some (.number n)
  | .string s => some (.string s)
  | _ => none

/-- One token: the stack and the expectation after it. -/
def step? (stack : List Frame) : Await → Token → Option (List Frame × Await)
  | .value, .openBrace => some (stack, .member)
  | .value, .openBracket => some (stack, .item)
  | .value, token => (scalar? token).map (stack, .next ·)
  | .item, .closeBracket => some (stack, .next (.array []))
  | .item, .openBrace => some (.array [] :: stack, .member)
  | .item, .openBracket => some (.array [] :: stack, .item)
  | .item, token => (scalar? token).map (.array [] :: stack, .next ·)
  | .member, .closeBrace => some (stack, .next (.object []))
  | .member, .string key => some (stack, .colon [] key)
  | .key members, .string key => some (stack, .colon members key)
  | .colon members key, .colon => some (.object members key :: stack, .value)
  | .next value, .comma =>
    match stack with
    | .array items :: stack => some (.array (value :: items) :: stack, .value)
    | .object members key :: stack => some (stack, .key ((key, value) :: members))
    | [] => none
  | .next value, .closeBracket =>
    match stack with
    | .array items :: stack => some (stack, .next (.array (value :: items).reverse))
    | _ => none
  | .next value, .closeBrace =>
    match stack with
    | .object members key :: stack =>
      some (stack, .next (.object ((key, value) :: members).reverse))
    | _ => none
  | _, _ => none

/-- All tokens, from a stack and an expectation. -/
def run? (stack : List Frame) (await : Await) : List Token → Option Tree
  | [] =>
    match stack, await with
    | [], .next value => some value
    | _, _ => none
  | token :: rest => do
    let (stack, await) ← step? stack await token
    run? stack await rest

/-- The tree that a list of tokens forms. -/
def ofTokens? (tokens : List Token) : Option Tree := run? [] .value tokens

/-- The tree of a text. -/
def parse? (text : String) : Option Tree := do ofTokens? (← Token.all? text.toList)

/-! ### Values of trees -/

/-- The most arrays and objects that may be open at once in a value that is kept. -/
def maxDepth : Nat := 127

mutual

/-- The value of a tree that may open `depth` containers at once. A repeated key keeps its first
place and its last value. -/
def valueWithin? (depth : Nat) : Tree → Option Json
  | .null => some .null
  | .bool b => some (.bool b)
  | .number n => n.map fun
    | .int n => .int n
    | .float x => .float x
  | .string s => s.map .string
  | .array items =>
    match depth with
    | 0 => none
    | depth + 1 => (itemsWithin? depth items).map .array
  | .object members =>
    match depth with
    | 0 => none
    | depth + 1 => (membersWithin? depth members).map fun pairs => .object (Members.ofList pairs)

/-- The values of the items of an array. -/
def itemsWithin? (depth : Nat) : List Tree → Option (List Json)
  | [] => some []
  | item :: rest => do return (← valueWithin? depth item) :: (← itemsWithin? depth rest)

/-- The keys and values of the members of an object, with repetitions. -/
def membersWithin? (depth : Nat) : List (Option String × Tree) → Option (List (String × Json))
  | [] => some []
  | (key, value) :: rest => do
    return (← key, ← valueWithin? depth value) :: (← membersWithin? depth rest)

end

/-- The value of a tree that is kept whole. -/
def value? (tree : Tree) : Option Json := valueWithin? maxDepth tree

end Tree

/-- The value of a text. -/
def parse? (text : String) : Option Json := do (← Tree.parse? text).value?

end RpcSchema.Json
