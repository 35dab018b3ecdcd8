import RpcSchema.Text.Blank
import RpcSchema.Text.Lines

/-!
# Entries as chunks of lines

A schema text is a sequence of entries. A line that starts with a blank continues the entry
before it and any other line starts one; lines that are blank or start with `#` are skipped. The
text of an entry has one line for each line of the schema from its first to its last, skipped
ones empty, so that a position in it is a position in the schema.

## Main definitions

* `Line` — a line of the schema that counts, with its number
* `Chunk` — the text of one entry, with the number of its first line
* `chunks` — the entries of a schema text
-/

namespace RpcSchema.Entry

open RpcSchema.Text

/-! ### Lines that count -/

/-- A line of the schema text, numbered from one. -/
structure Line where
  number : Nat
  text : List Char

/-- Whether a line is skipped: it is blank throughout or starts with `#`. -/
def isSkipped (line : List Char) : Bool := line.all isBlank || line.head? == some '#'

/-- Whether a line continues the entry before it. -/
def Line.continues (line : Line) : Bool := (line.text.head?.map isBlank).getD false

/-- The lines that count, where the first of the given lines has the given number. -/
def linesFrom (number : Nat) : List (List Char) → List Line
  | [] => []
  | text :: rest =>
    if isSkipped text then linesFrom (number + 1) rest
    else ⟨number, text⟩ :: linesFrom (number + 1) rest

/-! ### Grouping -/

/-- The lines of one entry. -/
structure Block where
  first : Line
  more : List Line

/-- Lines grouped into entries. The first line starts an entry even if it starts with a blank,
for there is nothing that it could continue. -/
def blocks : List Line → List Block
  | [] => []
  | line :: rest =>
    match blocks rest with
    | [] => [⟨line, []⟩]
    | block :: others =>
      if block.first.continues then ⟨line, block.first :: block.more⟩ :: others
      else ⟨line, []⟩ :: block :: others

/-- The text that continues an entry whose latest line has the given number: a newline for each
line further down, skipped lines included. -/
def continuation (number : Nat) : List Line → List Char
  | [] => []
  | line :: rest =>
    List.replicate (line.number - number) '\n' ++ line.text ++ continuation line.number rest

/-! ### Chunks -/

/-- The text of one entry and the number of the line it starts on. -/
structure Chunk where
  line : Nat
  text : List Char

/-- The chunk of a group of lines. -/
def Block.chunk (block : Block) : Chunk :=
  ⟨block.first.number, block.first.text ++ continuation block.first.number block.more⟩

/-- The entries of a schema text. -/
def chunks (text : List Char) : List Chunk := (blocks (linesFrom 1 (lines text))).map Block.chunk

end RpcSchema.Entry
