import RpcSchema.Code.Artifact
import RpcSchema.CommandLine.Surroundings
import RpcSchema.Drawing.Commands
import RpcSchema.Drawing.Definition
import RpcSchema.Drawing.Settings
import RpcSchema.Drawing.Tour
import RpcSchema.Main
import RpcSchema.Options.Registry
import RpcSchema.Rpc.Transport
import RpcSchema.Schema.Compile
import RpcSchema.Proofs.Schema.Building
import RpcSchema.Proofs.Schema.Verified
import RpcSchema.Proofs.Schema.Nesting
import RpcSchema.Proofs.Schema.Order
import RpcSchema.Proofs.Schema.Soundness
import RpcSchema.Proofs.Schema.DistinctNames
import RpcSchema.Proofs.Schema.Readability
import RpcSchema.Proofs.Schema.Boundary
import RpcSchema.Proofs.Code.Conversions
import RpcSchema.Proofs.Code.DeclaredTypes
import RpcSchema.Proofs.Json.Tokens
import RpcSchema.Proofs.Text.Lines
import RpcSchema.Proofs.Json.RoundTrip
import RpcSchema.Proofs.Rpc.Faithful
import RpcSchema.Proofs.Drawing.RoundTrip
import RpcSchema.Proofs.Rpc.Envelopes
import RpcSchema.Proofs.Rpc.Transparency
import RpcSchema.Proofs.Rpc.Bounded
import RpcSchema.Proofs.Drawing.Client
import RpcSchema.Proofs.Rpc.Chronicle
import RpcSchema.Proofs.Rpc.Bookkeeping
import RpcSchema.Proofs.Rpc.Delivery
import RpcSchema.Proofs.Entry.Pieces
import RpcSchema.Proofs.Entry.Grammar
import RpcSchema.Proofs.Entry.Chunks
import RpcSchema.Proofs.Entry.Positions
import RpcSchema.Proofs.Entry.RoundTrip
import RpcSchema.Proofs.Code.DeclaredFunctions
import RpcSchema.Proofs.Schema.Containment
import RpcSchema.Proofs.Rpc.Replies
import RpcSchema.Proofs.Drawing.Atomicity
import RpcSchema.Proofs.Entry.Layout
import RpcSchema.Proofs.Spelling
import RpcSchema.Proofs.Code.Parameters
import RpcSchema.Proofs.Identifiers
import RpcSchema.Proofs.Schema.LegalNames
import RpcSchema.Proofs.Code.Hygiene
import RpcSchema.Proofs.Code.Layout
import RpcSchema.Proofs.Rpc.RoundTrip
import RpcSchema.Proofs.Drawing.Watching
import RpcSchema.Proofs.Options.Lists
import RpcSchema.Proofs.Rpc.Members
import RpcSchema.Proofs.Rpc.Causes
import RpcSchema.Proofs.Drawing.Geometries
import RpcSchema.Proofs.Drawing.Declared
import RpcSchema.Proofs.Drawing.Faults
import RpcSchema.Proofs.Drawing.Blame
import RpcSchema.Proofs.Options.Attribution
import RpcSchema.Proofs.Drawing.Settings
import RpcSchema.Proofs.Options.Selection
import RpcSchema.Proofs.Options.Order
import RpcSchema.Proofs.Options.Runs
import RpcSchema.Proofs.Drawing.Configuration
import RpcSchema.Proofs.Schema.Pruning
import RpcSchema.Proofs.Schema.OptionPayloads
import RpcSchema.Proofs.Rpc.ErrorClasses
import RpcSchema.Proofs.Schema.Extension
import RpcSchema.Proofs.Code.Extension
import RpcSchema.Proofs.Entry.Viability
import RpcSchema.Proofs.Code.Writing
import RpcSchema.Proofs.Drawing.Files
import RpcSchema.Proofs.Drawing.Compiled
import RpcSchema.Proofs.Drawing.Conformance
