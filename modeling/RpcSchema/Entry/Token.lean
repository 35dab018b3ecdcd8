import RpcSchema.Text.Blank
import RpcSchema.Text.Quote

/-!
# Tokens of an entry

An entry consists of strings in single quotes, brackets, colons and commas; blanks and comments
from `#` to the end of the line separate them. Each token carries the place it starts at: the
line, and the column counted in bytes.

The tokenizer takes the longest piece (token, comment or run of blanks) that starts at the head
of the text. Where none starts, the stretch of text up to the next piece is reported.

## Main definitions

* `Position`, `Position.advance` — a place in the schema, and the place after some text
* `Lexeme`, `Token` — what a token is, and a token with its place
* `pieceLength` — the length of the piece that starts a text
* `TokenError` — text that is no piece
* `tokens` — the tokens of a text, with the end of the text as the last one
-/

namespace RpcSchema.Entry

open RpcSchema.Text

/-! ### Positions -/

/-- A place in the schema text. Lines count from one, and so do the bytes of a line. -/
structure Position where
  line : Nat
  column : Nat
  deriving Repr, DecidableEq

/-- The place after one character. -/
def Position.step (p : Position) (c : Char) : Position :=
  if c = '\n' then ⟨p.line + 1, 1⟩ else ⟨p.line, p.column + c.utf8Size⟩

/-- The place after some text. -/
def Position.advance (p : Position) (cs : List Char) : Position := cs.foldl Position.step p

/-! ### Tokens -/

/-- What a token is. -/
inductive Lexeme
  | string (contents : String)
  | openBrace
  | closeBrace
  | openBracket
  | closeBracket
  | colon
  | comma
  /-- the end of the entry -/
  | finish
  deriving Repr, DecidableEq

/-- The text of a token; the end of the entry has none. -/
def Lexeme.text : Lexeme → String
  | .string contents => "'" ++ contents ++ "'"
  | .openBrace => "\x7b"
  | .closeBrace => "\x7d"
  | .openBracket => "["
  | .closeBracket => "]"
  | .colon => ":"
  | .comma => ","
  | .finish => ""

/-- The text of a token without the quotes of a string. -/
def Lexeme.unquoted : Lexeme → String
  | .string contents => contents
  | lexeme => lexeme.text

/-- Whether a token is a string. -/
def Lexeme.isString : Lexeme → Bool
  | .string _ => true
  | _ => false

/-- A token and the place it starts at. -/
structure Token where
  lexeme : Lexeme
  position : Position
  deriving DecidableEq

/-! ### Pieces -/

/-- The lexeme of a single character. -/
def punctuation? : Char → Option Lexeme
  | '\x7b' => some .openBrace
  | '\x7d' => some .closeBrace
  | '[' => some .openBracket
  | ']' => some .closeBracket
  | ':' => some .colon
  | ',' => some .comma
  | _ => none

/-- The contents of a string whose opening quote has been taken. It ends on its line. -/
def contents? (cs : List Char) : Option (List Char) :=
  let inner := cs.takeWhile fun c => c != '\'' && c != '\n'
  if cs[inner.length]? = some '\'' then some inner else none

/-- The length of the token, comment or run of blanks that a text starts with, zero if it starts
with none. -/
def pieceLength : List Char → Nat
  | [] => 0
  | c :: rest =>
    if c = '\'' then
      match contents? rest with
      | some inner => inner.length + 2
      | none => 0
    else if c = '#' then 1 + (rest.takeWhile (· != '\n')).length
    else if isBlank c then 1 + (rest.takeWhile isBlank).length
    else if (punctuation? c).isSome then 1
    else 0

/-- The lexeme of a piece; comments and blanks have none. -/
def lexeme? : List Char → Option Lexeme
  | [] => none
  | c :: rest =>
    if c = '\'' then some (.string (String.ofList rest.dropLast)) else punctuation? c

/-- The stretch of text before the next piece. -/
def gap : List Char → List Char
  | [] => []
  | c :: rest => if pieceLength (c :: rest) = 0 then c :: gap rest else []

/-! ### Tokenizing -/

/-- Text that is no piece. -/
inductive TokenError
  | unterminatedString
  | unexpectedText (text : String)
  deriving DecidableEq

/-- The wording of a tokenizer's failure. -/
def TokenError.message : TokenError → String
  | .unterminatedString => "Unterminated string"
  | .unexpectedText text => "Syntax error: " ++ quote text

/-- The failure for a stretch of text that is no piece. -/
def TokenError.ofGap (text : List Char) : TokenError :=
  if text.head? = some '\'' then .unterminatedString else .unexpectedText (String.ofList text)

/-- The tokens of a text that starts at the given place, at the end the token `finish`. -/
def tokens (start : Position) (text : List Char) : Except (Position × TokenError) (List Token) :=
  match text with
  | [] => .ok [⟨.finish, start⟩]
  | c :: rest =>
    if _h : pieceLength (c :: rest) = 0 then .error (start, .ofGap (gap (c :: rest)))
    else do
      let n := pieceLength (c :: rest)
      let piece := (c :: rest).take n
      let more ← tokens (start.advance piece) ((c :: rest).drop n)
      match lexeme? piece with
      | some lexeme => return ⟨lexeme, start⟩ :: more
      | none => return more
termination_by text.length
decreasing_by simp only [List.length_drop, List.length_cons]; omega

end RpcSchema.Entry
