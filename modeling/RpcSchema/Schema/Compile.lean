import RpcSchema.Schema.Build
import RpcSchema.Schema.Verify

/-!
# Schemas compiled from text

A schema text is parsed into entries, the entries are built into definitions and the definitions
are verified. The first failure ends it, so no schema comes from a text that is only partly
valid.

## Main definitions

* `SchemaError` — a failure of any of the three, with its wording
* `Schema.ofText` — the schema of a text, not verified
* `Schema.compile` — the verified schema of a text
-/

namespace RpcSchema

/-- Why a text is no schema. -/
inductive SchemaError
  | parse (error : Entry.ParseError)
  | build (error : Schema.BuildError)
  | verify (fault : Schema.VerifyFault)
  deriving DecidableEq

/-- The wording of a failure, with its place. -/
def SchemaError.message : SchemaError → String
  | .parse error =>
    "Parse error at line " ++ toString error.position.line ++ ", column " ++
      toString error.position.column ++ ": " ++ error.fault.message
  | .build error => "Schema error at line " ++ toString error.line ++ ": " ++ error.fault.message
  | .verify fault => "Verifier error: " ++ fault.message

namespace Schema

/-- The entries of a text. -/
def entries (text : String) : Except SchemaError (List Entry.Parsed) :=
  (Entry.parse text).mapError .parse

/-- The schema of a text, not verified. -/
def ofText (text : String) : Except SchemaError Schema := do
  (build (← entries text)).mapError .build

/-- The verified schema of a text. -/
def compile (text : String) : Except SchemaError Schema := do
  let schema ← ofText text
  schema.verify.mapError .verify
  return schema

end Schema

end RpcSchema
