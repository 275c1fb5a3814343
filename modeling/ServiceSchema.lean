import ServiceSchema.App
import ServiceSchema.Logging
import ServiceSchema.Main
import ServiceSchema.Proofs.Discovery.Needed
import ServiceSchema.Proofs.TypeExpr.Grammar
import ServiceSchema.Samples.Handlers
import ServiceSchema.Samples.TypeText
import ServiceSchema.Security.Backends
import ServiceSchema.Proofs.TypeExpr.Reader
import ServiceSchema.Proofs.Manifest.Expansion
import ServiceSchema.Proofs.Manifest.Memo
import ServiceSchema.Proofs.Manifest.Acceptance
import ServiceSchema.Proofs.Discovery.Order
import ServiceSchema.Proofs.Service.References
import ServiceSchema.Proofs.Document.Lines
import ServiceSchema.Proofs.Manifest.Translation
import ServiceSchema.Proofs.App.Registration
import ServiceSchema.Proofs.App.Gate
import ServiceSchema.Proofs.Manifest.Consistency
import ServiceSchema.Proofs.Discovery.Roots
import ServiceSchema.Proofs.Discovery.Runs
import ServiceSchema.Proofs.Discovery.LargerTable
import ServiceSchema.Proofs.Keyed.Table
import ServiceSchema.Proofs.Service.Extension
import ServiceSchema.Proofs.Service.Imports
import ServiceSchema.Proofs.Json.Order
import ServiceSchema.Proofs.Service.Methods
import ServiceSchema.Proofs.Decode
import ServiceSchema.Proofs.Format
import ServiceSchema.Proofs.App.Runs
import ServiceSchema.Proofs.Files.FileSystem
import ServiceSchema.Proofs.Service.Reordering
import ServiceSchema.Proofs.CommandLine.Arguments
import ServiceSchema.Proofs.CommandLine.Generate
import ServiceSchema.Proofs.Manifest.Recursion
import ServiceSchema.Proofs.Manifest.Stack
import ServiceSchema.Proofs.App.Frame
import ServiceSchema.Proofs.WireType
import ServiceSchema.Proofs.Text.Words
import ServiceSchema.Proofs.Service.Package
import ServiceSchema.Proofs.TypeExpr.Depth
import ServiceSchema.Proofs.Text.WordStarts
import ServiceSchema.Proofs.Text.Offsets
import ServiceSchema.Proofs.Files.Path
import ServiceSchema.Proofs.Output
import ServiceSchema.Proofs.Placement
import ServiceSchema.Proofs.Json.Text
import ServiceSchema.Proofs.Format.Record
import ServiceSchema.Proofs.CommandLine.Describe
