import RpcSchema.CommandLine.Outcome

/-!
# The program

Reads the arguments and the schema, and writes what comes of them. A job that cannot be done ends
with status one, and arguments that are no job with status two.
-/

namespace RpcSchema.CommandLine

/-- The fault of a number of the system, which some calls report with the opposite sign. -/
def FileFault.ofCode (code : UInt32) : FileFault :=
  match min code (0 - code) with
  | 20 => .notDirectory
  | 21 => .isDirectory
  | 28 => .noSpace
  | 36 => .nameTooLong
  | _ => .other

/-- The fault that the system reports. -/
def FileFault.ofError : IO.Error → FileFault
  | .noFileOrDirectory .. => .notFound
  | .permissionDenied .. => .denied
  | .inappropriateType _ code _ => .ofCode code
  | .invalidArgument _ code _ => .ofCode code
  | .resourceExhausted _ code _ => .ofCode code
  | _ => .other

/-- The result of an action on a file. -/
def onFile (action : IO α) : IO (Except FileFault α) := do
  match ← action.toBaseIO with
  | .ok value => return .ok value
  | .error error => return .error (.ofError error)

/-- Reads the whole of a stream. -/
partial def readAll (stream : IO.FS.Stream) (soFar : ByteArray) : IO ByteArray := do
  let bytes ← stream.read 65536
  if bytes.isEmpty then return soFar else readAll stream (soFar ++ bytes)

/-- The bytes of the input of a job. -/
def readInput (job : Job) : IO ByteArray := do
  match job.input with
  | some path => IO.FS.readBinFile path
  | none => readAll (← IO.getStdin) .empty

/-- The text of some bytes. -/
def textOf (bytes : ByteArray) : Except FileFault String :=
  match String.fromUTF8? bytes with
  | some text => .ok text
  | none => .error .notText

/-- Writes the text that came of a job. -/
def writeOutput (job : Job) (text : String) : IO Unit := do
  match job.output with
  | some path => do
    let file ← IO.FS.Handle.mk path .write
    file.putStr text
    file.flush
  | none => do
    let out ← IO.getStdout
    out.putStr text
    out.flush

/-- Reports a failure. -/
def report (failure : Failure) : IO UInt32 := do
  IO.eprintln ("Error: " ++ failure.describe)
  return 1

/-- Does a job. -/
def Job.run (job : Job) : IO UInt32 := do
  let input ← onFile (readInput job)
  match job.outcome (input >>= textOf) with
  | .error failure => report failure
  | .ok none => return 0
  | .ok (some text) =>
    match ← onFile (writeOutput job text) with
    | .error fault => report (.file fault)
    | .ok () => return 0

end RpcSchema.CommandLine

open RpcSchema.CommandLine in
/-- The program. -/
def main (arguments : List String) : IO UInt32 := do
  match Job.ofArguments arguments with
  | .ok job => job.run
  | .error .help => do
    IO.println usage
    return 0
  | .error stop => do
    IO.eprintln ("error: " ++ stop.message ++ "\n\n" ++ usage)
    return 2
