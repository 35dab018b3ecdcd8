/-!
# Lines

A text as its lines. A newline ends a line, with a carriage return before it if there is one; a
last line without a newline counts and keeps its carriage return, and nothing follows a final
newline.

## Main definitions

* `Text.lines` — the lines of a text, without their terminators
-/

namespace RpcSchema.Text

/-- The lines of a text, without their terminators. -/
def lines : List Char → List (List Char)
  | [] => []
  | '\n' :: rest => [] :: lines rest
  | '\r' :: '\n' :: rest => [] :: lines rest
  | c :: rest =>
    match lines rest with
    | [] => [[c]]
    | line :: more => (c :: line) :: more

end RpcSchema.Text
