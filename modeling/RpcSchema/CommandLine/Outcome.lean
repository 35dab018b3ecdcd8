import RpcSchema.CommandLine.Arguments
import RpcSchema.Schema.Compile
import RpcSchema.Text.Literal

/-!
# Outcomes of the command line

What comes of a job: a text to be written, nothing if the schema was only checked, or a failure.
Failures are shown on one line, in a form that tells its parts apart. Nothing is written if there
is a failure.

## Main definitions

* `FileFault`, `Failure` — what can go wrong, and how it is shown
* `Job.generate` — what comes of a job for a schema text
* `Job.outcome` — the same for whatever the input gives
-/

namespace RpcSchema.CommandLine

/-- Why a file cannot be read or written. -/
inductive FileFault
  | notFound
  | denied
  | notDirectory
  | isDirectory
  | nameTooLong
  | noSpace
  /-- the bytes are no text -/
  | notText
  | other
  deriving Repr, DecidableEq

/-- A fault of the system with its number, kind and wording. -/
def systemFault (code : Nat) (kind message : String) : String :=
  s!"Os \x7b code: {code}, kind: {kind}, message: {Text.literal message} \x7d"

/-- A fault as it is shown. -/
def FileFault.describe : FileFault → String
  | .notFound => systemFault 2 "NotFound" "No such file or directory"
  | .denied => systemFault 13 "PermissionDenied" "Permission denied"
  | .notDirectory => systemFault 20 "NotADirectory" "Not a directory"
  | .isDirectory => systemFault 21 "IsADirectory" "Is a directory"
  | .nameTooLong => systemFault 36 "InvalidFilename" "File name too long"
  | .noSpace => systemFault 28 "StorageFull" "No space left on device"
  | .notText =>
    "Error \x7b kind: InvalidData, message: " ++
      Text.literal "stream did not contain valid UTF-8" ++ " \x7d"
  | .other => systemFault 5 "Uncategorized" "Input/output error"

/-- Why nothing comes of a job. -/
inductive Failure
  | file (fault : FileFault)
  | schema (error : SchemaError)
  | code (fault : Code.Fault)

/-- A failure of a schema as it is shown. -/
def showSchemaError : SchemaError → String
  | .parse error =>
    s!"ParseError \x7b msg: {Text.literal error.fault.message}, line: {error.position.line}, " ++
      s!"column: {error.position.column} \x7d"
  | .build error =>
    s!"SchemaError \x7b msg: {Text.literal error.fault.message}, line: {error.line} \x7d"
  | .verify fault => s!"VerifierError({Text.literal fault.message})"

/-- A failure as it is shown. -/
def Failure.describe : Failure → String
  | .file fault => s!"Io({fault.describe})"
  | .schema error => showSchemaError error
  | .code fault => fault.message

/-- The text that comes of a job for a schema text, if it is wanted. -/
def Job.generate (job : Job) (text : String) : Except Failure (Option String) := do
  let schema ← (Schema.compile text).mapError .schema
  match job.target with
  | .check => return none
  | .artifact artifact =>
    return some (← (Code.generate schema job.config artifact).mapError .code)

/-- What comes of a job for whatever its input gives. -/
def Job.outcome (job : Job) (input : Except FileFault String) : Except Failure (Option String) := do
  job.generate (← input.mapError .file)

end RpcSchema.CommandLine
