/-!
# Layout of generated code

Generated code is laid out from steps: a line, a blank line, or a block of steps between an opening
and a closing line. A step says nothing about where it stands. Its depth gives the indentation,
and whether text precedes it decides if a blank line shows, so blank lines never pile up.

## Main definitions

* `Step` — a piece of code
* `Step.lines`, `linesOf` — the lines of a step and of several steps
* `layout` — the text of some steps
-/

namespace RpcSchema.Code

/-- A piece of code. -/
inductive Step
  | line (text : String)
  /-- an empty line, unless there is one already or nothing yet -/
  | blank
  /-- steps one level deeper, between two lines -/
  | block (opener closer : String) (body : List Step)
  deriving Inhabited

namespace Step

/-- A block in braces after a header. -/
def braced (header : String) (body : List Step) : Step := .block (header ++ " \x7b") "\x7d" body

end Step

/-! ### Lines -/

/-- A line at a depth of four blanks a level; an empty line stays empty. -/
def indented (depth : Nat) (text : String) : String :=
  if text = "" then "" else String.ofList (List.replicate (4 * depth) ' ') ++ text

/-- Whether a line with text precedes what follows a step, given whether one precedes it. -/
def Step.leavesText : Step → Bool
  | .line text => text != ""
  | .blank => false
  | .block _ closer _ => closer != ""

mutual

/-- The lines of a step at a depth, where `text` says whether a line with text precedes it. -/
def Step.lines (depth : Nat) (text : Bool) : Step → List String
  | .line t => [indented depth t]
  | .blank => if text then [""] else []
  | .block opener closer body =>
    indented depth opener :: linesOf (depth + 1) (opener != "") body ++ [indented depth closer]

/-- The lines of several steps. -/
def linesOf (depth : Nat) (text : Bool) : List Step → List String
  | [] => []
  | step :: rest => step.lines depth text ++ linesOf depth step.leavesText rest

end

/-! ### Text -/

/-- Lines without the empty ones at their end. -/
def dropTrailing (lines : List String) : List String :=
  (lines.reverse.dropWhile (· == "")).reverse

/-- The text of lines: a newline between each two and one at the end. -/
def textOf (lines : List String) : String := "\n".intercalate (dropTrailing lines) ++ "\n"

/-- The text of some steps. -/
def layout (steps : List Step) : String := textOf (linesOf 0 false steps)

end RpcSchema.Code
