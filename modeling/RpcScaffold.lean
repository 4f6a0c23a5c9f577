import RpcScaffold.Generation
import RpcScaffold.Graph.Encode
import RpcScaffold.Manifest
import RpcScaffold.Instructions
import RpcScaffold.Versions.Published
import RpcScaffold.Descriptor
import RpcScaffold.SourceText
import RpcScaffold.Text.ByteSize
import RpcScaffold.CopiedSources
import RpcScaffold.Files.Tree
import RpcScaffold.Output.Write
import RpcScaffold.Main
import RpcScaffold.Proofs.Success
import RpcScaffold.Proofs.NameMap
import RpcScaffold.Proofs.Discovery.Models
import RpcScaffold.Proofs.Discovery.Services
import RpcScaffold.Proofs.Discovery.Worklist
import RpcScaffold.Proofs.Discovery.Reach
import RpcScaffold.Proofs.Discovery.Messages
import RpcScaffold.Proofs.Discovery.Records
import RpcScaffold.Proofs.Discovery.Acceptance
import RpcScaffold.Proofs.Naming.Words
import RpcScaffold.Proofs.Code.Lines
import RpcScaffold.Proofs.Naming.Letters
import RpcScaffold.Proofs.Schema.Read
import RpcScaffold.Proofs.Schema.Blocks
import RpcScaffold.Proofs.Generation.Check
import RpcScaffold.Proofs.Schema.Complete
import RpcScaffold.Proofs.Generation.Staging
import RpcScaffold.Proofs.Generation.Stages
import RpcScaffold.Proofs.Generation.Emitters
import RpcScaffold.Proofs.Generation.Agreement
import RpcScaffold.Proofs.Converter.Fields
import RpcScaffold.Proofs.Converter.Types
import RpcScaffold.Proofs.Converter.Values
import RpcScaffold.Proofs.Converter.RoundTrip
import RpcScaffold.Proofs.Code.Contents
import RpcScaffold.Proofs.Converter.Paths
import RpcScaffold.Proofs.Converter.Contents
import RpcScaffold.Proofs.Generation.References
import RpcScaffold.Proofs.Service.Contents
import RpcScaffold.Proofs.Discovery.Extension
import RpcScaffold.Proofs.Discovery.Order
import RpcScaffold.Proofs.Generation.FirstUse
import RpcScaffold.Proofs.Generation.Order
import RpcScaffold.Proofs.Generation.Revision
import RpcScaffold.Proofs.Generation.Extension
import RpcScaffold.Proofs.Schema.Decoding
import RpcScaffold.Proofs.Generation.Relocation
import RpcScaffold.Proofs.Generation.Legality
import RpcScaffold.Proofs.Service.Scope
import RpcScaffold.Proofs.DomainType.RoundTrip
import RpcScaffold.Proofs.DomainType.Grammar
import RpcScaffold.Proofs.DomainType.Sequences
import RpcScaffold.Proofs.Json.Elision
import RpcScaffold.Proofs.Descriptor.RoundTrip
import RpcScaffold.Proofs.Output.Completeness
import RpcScaffold.Proofs.Output.Frame
import RpcScaffold.Proofs.Output.Inside
import RpcScaffold.Proofs.CommandLine.Generating
import RpcScaffold.Proofs.Generation.Stubs
import RpcScaffold.Proofs.Discovery.Distance
import RpcScaffold.Proofs.Message.Fields
import RpcScaffold.Proofs.Converter.Literals
import RpcScaffold.Proofs.Converter.FunctionNames
import RpcScaffold.Proofs.Discovery.Sequences
import RpcScaffold.Proofs.Generation.Sequences
import RpcScaffold.Proofs.Schema.Emission
import RpcScaffold.Proofs.Converter.Imports
import RpcScaffold.Proofs.Generation.Dependencies
import RpcScaffold.Proofs.SourceText.Markers
import RpcScaffold.Proofs.SourceText.Copies
import RpcScaffold.Proofs.SourceText.Platforms
import RpcScaffold.Proofs.CopiedSources.Staging
import RpcScaffold.Proofs.CopiedSources.Gathering
import RpcScaffold.Proofs.Pipeline.Composition
import RpcScaffold.Proofs.Code.Guards
import RpcScaffold.Proofs.Message.FieldNumbers
import RpcScaffold.Proofs.Manifest
import RpcScaffold.Proofs.Message.Catalog
import RpcScaffold.Proofs.Wire.Mapping
import RpcScaffold.Proofs.Generation.Distinct
