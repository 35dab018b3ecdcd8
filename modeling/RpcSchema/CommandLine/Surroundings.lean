import RpcSchema.CommandLine.Outcome
import RpcSchema.Text.Split

/-!
# Surroundings of a job

What a job is done in: the folders, files and devices that its paths lead to, and the standard
streams. A path is walked name by name, from the root if it starts with a slash and from the
working folder if not. Every name is looked up in a folder, and the first that cannot be decides
what is wrong.

What is read has to be there. What is written may be new, but not the folder that is to hold it.

## Main definitions

* `Place`, `Node`, `Surroundings` — where things stand, what can stand there, and all of it
* `Surroundings.walk` — the place that the names of a path lead to
* `Surroundings.read`, `Surroundings.write` — what comes of a path that is read or written
* `Job.perform` — what is left behind by a job
-/

namespace RpcSchema.CommandLine

/-! ### What stands where -/

/-- The names that lead to a place, the innermost first. The root has none, and the folder around
a place is the tail. -/
abbrev Place := List String

/-- What can stand at a place. -/
inductive Node
  | folder
  | file (text : String)
  /-- empty whenever it is read, and takes whatever is written -/
  | sink
  /-- has no room for anything -/
  | full
  /-- the standard input -/
  | input
  /-- the standard output -/
  | output
  deriving Repr, DecidableEq

/-- All that a job is done in. -/
structure Surroundings where
  /-- what stands where, the newest first -/
  nodes : List (Place × Node)
  /-- the folder where paths start that do not start at the root -/
  working : Place
  /-- the text of the standard input -/
  input : String
  /-- the text that was written to the standard output -/
  printed : String

namespace Surroundings

/-- The folders below the root that are everywhere. -/
def folders : List String := ["bin", "dev", "etc", "home", "opt", "root", "tmp", "usr", "var", "work"]

/-- The devices that are everywhere. Nothing is kept of the standard errors. -/
def devices : List (String × Node) :=
  [("null", .sink), ("full", .full), ("stdin", .input), ("stdout", .output), ("stderr", .sink)]

/-- Only what is everywhere, with an input, before anything is written. -/
def bare (input : String) : Surroundings where
  nodes := ([], .folder) :: folders.map (fun name => ([name], .folder)) ++
    devices.map (fun (name, device) => ([name, "dev"], device))
  working := ["work"]
  input := input
  printed := ""

/-- What stands at a place, if anything does. -/
def node? (s : Surroundings) (place : Place) : Option Node := s.nodes.lookup place

/-- A node put at a place, in place of what stood there. -/
def put (s : Surroundings) (place : Place) (node : Node) : Surroundings :=
  { s with nodes := (place, node) :: s.nodes }

/-- A text printed after what was. -/
def print (s : Surroundings) (text : String) : Surroundings :=
  { s with printed := s.printed ++ text }

/-! ### Paths -/

/-- The most bytes of a name. -/
def nameLimit : Nat := 255

/-- The most bytes of a path. -/
def pathLimit : Nat := 4095

/-- The names of a path, which slashes separate. There is an empty one before a slash at the start
and after one at the end. -/
def namesOf (path : String) : List String :=
  (Text.splitWhere (· == '/') path.toList).map String.ofList

/-- The names of a path to what is written. With a slash at its end only a folder can be meant,
which cannot be written, so the last name is not looked up but only the folder around it. -/
def targetNamesOf (path : String) : List String :=
  match (namesOf path).reverse with
  | "" :: before => (before.dropWhile (·.isEmpty)).tail.reverse ++ ["."]
  | _ => namesOf path

/-- The place that a name leads to. What stands before has to be a folder; an empty name and a dot
stay there, and two dots lead to the folder around it. -/
def step (s : Surroundings) (place : Place) (name : String) : Except FileFault Place :=
  match s.node? place with
  | none => .error .notFound
  | some .folder =>
    if name == "" || name == "." then .ok place
    else if name == ".." then .ok place.tail
    else if nameLimit < name.utf8ByteSize then .error .nameTooLong
    else .ok (name :: place)
  | some _ => .error .notDirectory

/-- The place where a path starts. -/
def start (s : Surroundings) (path : String) : Place :=
  if path.toList.head? == some '/' then [] else s.working

/-- The place that names of a path lead to. Nothing need stand there. -/
def walk (s : Surroundings) (path : String) (names : List String) : Except FileFault Place :=
  if path.isEmpty then .error .notFound
  else if pathLimit < path.utf8ByteSize then .error .nameTooLong
  else names.foldlM s.step (s.start path)

/-! ### Reading and writing -/

/-- The text that a path gives. -/
def read (s : Surroundings) (path : String) : Except FileFault String := do
  match s.node? (← s.walk path (namesOf path)) with
  | none => .error .notFound
  | some .folder => .error .isDirectory
  | some (.file text) => return text
  | some .input => return s.input
  | some .full => .error .other
  | some _ => return ""

/-- What is left once a text is written to a path. -/
def write (s : Surroundings) (path text : String) : Except FileFault Surroundings := do
  let place ← s.walk path (targetNamesOf path)
  match s.node? place with
  | some .folder => .error .isDirectory
  | some .full => .error .noSpace
  | some .output => return s.print text
  | some .sink | some .input => return s
  | some (.file _) | none => return s.put place (.file text)

/-- The surroundings with a file in the working folder. -/
def withFile (s : Surroundings) (name text : String) : Surroundings :=
  s.put (name :: s.working) (.file text)

/-- The text of a file in the working folder. -/
def file? (s : Surroundings) (name : String) : Option String :=
  match s.node? (name :: s.working) with
  | some (.file text) => some text
  | _ => none

end Surroundings

/-! ### Jobs -/

/-- The text that a job reads. -/
def Job.text (job : Job) (s : Surroundings) : Except FileFault String :=
  match job.input with
  | some path => s.read path
  | none => .ok s.input

/-- What is left behind by a job. A failure leaves everything as it was. -/
def Job.perform (job : Job) (s : Surroundings) : Except Failure Surroundings := do
  match ← job.outcome (job.text s), job.output with
  | none, _ => return s
  | some text, none => return s.print text
  | some text, some path => (s.write path text).mapError .file

end RpcSchema.CommandLine
