import RpcSchema.Code.Catalogue
import RpcSchema.Code.ClientItems
import RpcSchema.Code.EventItems
import RpcSchema.Code.ImplItems
import RpcSchema.Code.OptionItems
import RpcSchema.Code.ServerItems
import RpcSchema.Code.TypeItems
import RpcSchema.Code.WireItems

/-!
# Artifacts

What can be generated from a schema: nine parts of its code, all of them in one text, or its
catalogue. The code has no imports and names the runtime library by its path, so the parts can be
put together in any way.

## Main definitions

* `Part`, `Artifact` — the parts, and what can be generated
* `Part.items` — the items of a part
* `generate` — the text of an artifact
-/

namespace RpcSchema.Code

/-- A part of the code. -/
inductive Part
  | types
  | typeImpls
  | marshal
  | serverTrait
  | server
  | client
  | events
  | optionTrait
  | options
  deriving Repr, DecidableEq

/-- All parts in the order they are put together. -/
def Part.all : List Part :=
  [.types, .typeImpls, .marshal, .serverTrait, .server, .client, .events, .optionTrait, .options]

/-- The name of a part. -/
def Part.name : Part → String
  | .types => "types"
  | .typeImpls => "type-impls"
  | .marshal => "marshal"
  | .serverTrait => "server-trait"
  | .server => "server"
  | .client => "client"
  | .events => "events"
  | .optionTrait => "option-trait"
  | .options => "options"

/-- What can be generated. -/
inductive Artifact
  | part (part : Part)
  | metadata
  | all
  deriving Repr, DecidableEq

/-- The name of an artifact. -/
def Artifact.name : Artifact → String
  | .part p => p.name
  | .metadata => "metadata"
  | .all => "all"

/-- All artifacts. -/
def Artifact.every : List Artifact := Part.all.map .part ++ [.metadata, .all]

/-- The artifact of a name. -/
def Artifact.ofName? (name : String) : Option Artifact := every.find? (·.name == name)

/-- The wording for a name that no artifact has. -/
def Artifact.unknownMessage (name : String) : String := s!"unknown artifact kind \"{name}\""

/-- The items of a part. -/
def Part.items (c : Context) : Part → Except Fault (List Item)
  | .types => .ok (typeItems c)
  | .typeImpls => implItems c
  | .marshal => .ok (wireItems c)
  | .serverTrait => .ok (serverTraitItems c)
  | .server => .ok (serverItems c)
  | .client => .ok (clientItems c)
  | .events => .ok (eventItems c)
  | .optionTrait => .ok (optionTraitItems c)
  | .options => .ok (optionItems c)

/-- The first line of a part, and a blank line. -/
def Part.header (part : Part) : List Step :=
  [.line s!"// @generated by brine-qapi-compiler ({part.name}). Do not edit.", .blank]

/-- The layout of a part. -/
def Part.steps (c : Context) (part : Part) : Except Fault (List Step) := do
  return part.header ++ itemsSteps (← part.items c)

/-- The text of some parts, one after the other. -/
def partsText (c : Context) (parts : List Part) : Except Fault String := do
  return layout (← parts.mapM (Part.steps c)).flatten

/-- The text of an artifact. -/
def generate (schema : Schema) (config : Config) (artifact : Artifact) : Except Fault String :=
  let c := Context.of schema config
  match artifact with
  | .part p => partsText c [p]
  | .all => partsText c Part.all
  | .metadata => .ok (catalogue c)

end RpcSchema.Code
