/-!
# Quoted names

Messages show a schema name between single quotes, with a quote inside it escaped.

## Main definitions

* `Text.quote` — a name as messages show it
-/

namespace RpcSchema.Text

/-- The characters of a name with each single quote escaped by a backslash. -/
def escapeQuotes (cs : List Char) : List Char :=
  cs.flatMap fun c => if c = '\'' then ['\\', '\''] else [c]

/-- A name between single quotes, as every message shows it. -/
def quote (name : String) : String :=
  "'" ++ String.ofList (escapeQuotes name.toList) ++ "'"

end RpcSchema.Text
