import RpcSchema.Entry.Chunk
import RpcSchema.Entry.Token
import RpcSchema.Entry.Value

/-!
# Entries parsed from text

The grammar of an entry is

```
value ::= STRING | '{' [ pair { ',' pair } [','] ] '}' | '[' [ value { ',' value } [','] ] ']'
pair  ::= STRING ':' value
```

with the keys of each map distinct; nothing may follow the value. The parser takes one token at a
time with a stack of open maps and lists, so it is plain recursion on the token list and fails at
the first token that no continuation of the text could mend. A repeated key is the one failure of
another kind: it is found when the value of the key is complete and reported at the key.

## Main definitions

* `Frame`, `Await` — an open map or list, and what may come next
* `ParseFault`, `ParseError` — why a text is no entry, and where
* `step`, `run` — the parser on one token and on a list of tokens
* `parseTokens` — the value of one entry
* `Parsed`, `parse` — the entries of a schema text
-/

namespace RpcSchema.Entry

open RpcSchema.Text

/-! ### Errors -/

/-- Why a text is no sequence of entries. A token that does not fit is part of the reason. -/
inductive ParseFault
  | token (error : TokenError)
  | expectedValue (found : Lexeme)
  | expectedKey (found : Lexeme)
  | expectedColon (found : Lexeme)
  | duplicateKey (key : String)
  /-- the entry ends inside a map opened at the given place -/
  | unbalanced (opened : Position)
  | expectedMapEnd (found : Lexeme)
  | expectedListEnd (found : Lexeme)
  | trailing (found : Lexeme)
  deriving DecidableEq

/-- A token as messages show it. -/
def Lexeme.describe : Lexeme → String
  | .finish => "end of entry"
  | lexeme => lexeme.text

/-- The wording of a fault. -/
def ParseFault.message : ParseFault → String
  | .token error => error.message
  | .expectedValue found => "Expected a value but found " ++ found.describe
  | .expectedKey found => "Expected a string key but found " ++ found.describe
  | .expectedColon found => "Expected ':' but found " ++ found.describe
  | .duplicateKey key => "Duplicate key " ++ quote key
  | .unbalanced opened =>
    "Unbalanced " ++ quote Lexeme.openBrace.text ++ " opened at line " ++ toString opened.line ++
      ", column " ++ toString opened.column
  | .expectedMapEnd found =>
    "Expected \",\" or " ++ quote Lexeme.closeBrace.text ++ " but found " ++ found.describe
  | .expectedListEnd found => "Expected ']' but found " ++ found.describe
  | .trailing found => "Unexpected token " ++ quote found.text ++ " after the end of the entry"

/-- A fault and the place it is reported at. -/
structure ParseError where
  position : Position
  fault : ParseFault
  deriving DecidableEq

/-! ### The parser's state -/

/-- A key and the place it stands at. -/
structure Key where
  name : String
  position : Position

/-- An open map or list with the parts that are complete. -/
inductive Frame
  | list (items : List Value)
  /-- a map opened at the given place, waiting for the value of a key -/
  | map (opened : Position) (members : List (String × Value)) (key : Key)

/-- What may come next. -/
inductive Await
  /-- a value -/
  | value
  /-- an item of a list with the given items, or the end of the list -/
  | item (items : List Value)
  /-- a key of a map with the given members, or the end of the map -/
  | key (opened : Position) (members : List (String × Value))
  /-- the colon after a key -/
  | colon (opened : Position) (members : List (String × Value)) (key : Key)
  /-- a comma or the end of a list -/
  | listRest (items : List Value)
  /-- a comma or the end of a map -/
  | mapRest (opened : Position) (members : List (String × Value))
  /-- the end of the entry, whose value is complete -/
  | finish (value : Value)

/-- A stack of open maps and lists, innermost first, and what may come next. -/
structure State where
  stack : List Frame
  await : Await

/-- The state of a parser that has seen nothing. -/
def State.start : State := ⟨[], .value⟩

/-! ### Steps -/

/-- The state after a complete value: it becomes a part of the innermost open map or list. -/
def complete (stack : List Frame) (value : Value) : Except ParseError State :=
  match stack with
  | [] => .ok ⟨[], .finish value⟩
  | .list items :: stack => .ok ⟨stack, .listRest (items ++ [value])⟩
  | .map opened members key :: stack =>
    if (members.lookup key.name).isSome then .error ⟨key.position, .duplicateKey key.name⟩
    else .ok ⟨stack, .mapRest opened (members ++ [(key.name, value)])⟩

/-- The state after the first token of a value. -/
def enter (stack : List Frame) (token : Token) : Except ParseError State :=
  match token.lexeme with
  | .openBrace => .ok ⟨stack, .key token.position []⟩
  | .openBracket => .ok ⟨stack, .item []⟩
  | .string text => complete stack (.string text)
  | found => .error ⟨token.position, .expectedValue found⟩

/-- The state after one token. -/
def step (state : State) (token : Token) : Except ParseError State :=
  match state.await with
  | .value => enter state.stack token
  | .item items =>
    if token.lexeme = .closeBracket then complete state.stack (.list items)
    else enter (.list items :: state.stack) token
  | .key opened members =>
    match token.lexeme with
    | .closeBrace => complete state.stack (.map members)
    | .string name => .ok ⟨state.stack, .colon opened members ⟨name, token.position⟩⟩
    | found => .error ⟨token.position, .expectedKey found⟩
  | .colon opened members key =>
    match token.lexeme with
    | .colon => .ok ⟨.map opened members key :: state.stack, .value⟩
    | found => .error ⟨token.position, .expectedColon found⟩
  | .listRest items =>
    match token.lexeme with
    | .comma => .ok ⟨state.stack, .item items⟩
    | .closeBracket => complete state.stack (.list items)
    | found => .error ⟨token.position, .expectedListEnd found⟩
  | .mapRest opened members =>
    match token.lexeme with
    | .comma => .ok ⟨state.stack, .key opened members⟩
    | .closeBrace => complete state.stack (.map members)
    | .finish => .error ⟨token.position, .unbalanced opened⟩
    | found => .error ⟨token.position, .expectedMapEnd found⟩
  | .finish value =>
    match token.lexeme with
    | .finish => .ok ⟨[], .finish value⟩
    | found => .error ⟨token.position, .trailing found⟩

/-- The state after a list of tokens. -/
def run (state : State) : List Token → Except ParseError State
  | [] => .ok state
  | token :: rest => do run (← step state token) rest

/-- The value of one entry. A list of tokens ends with the token `finish`, which only a complete
value lets pass, so the last case arises for no text. -/
def parseTokens (tokens : List Token) : Except ParseError Value := do
  match (← run .start tokens).await with
  | .finish value => return value
  | _ => throw ⟨⟨0, 0⟩, .expectedValue .finish⟩

/-! ### Schema texts -/

/-- The value of an entry and the line it starts on. -/
structure Parsed where
  value : Value
  line : Nat
  deriving DecidableEq

/-- The tokens of a chunk. -/
def Chunk.tokens (chunk : Chunk) : Except ParseError (List Token) :=
  match Entry.tokens ⟨chunk.line, 1⟩ chunk.text with
  | .ok tokens => .ok tokens
  | .error (position, error) => .error ⟨position, .token error⟩

/-- The entry of a chunk. -/
def Chunk.parse (chunk : Chunk) : Except ParseError Parsed := do
  return ⟨← parseTokens (← chunk.tokens), chunk.line⟩

/-- The entries of a schema text. -/
def parse (text : String) : Except ParseError (List Parsed) :=
  (chunks text.toList).mapM Chunk.parse

/-- Whether two lists of entries agree, the order of keys aside. -/
def sameEntries : List Parsed → List Parsed → Bool
  | [], [] => true
  | a :: as, b :: bs => a.line == b.line && a.value.same b.value && sameEntries as bs
  | _, _ => false

end RpcSchema.Entry
