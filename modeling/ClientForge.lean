import ClientForge.Api.Convenience
import ClientForge.Api.Curation
import ClientForge.Api.Method
import ClientForge.Api.Namespace
import ClientForge.Api.Parameter
import ClientForge.Api.Reference
import ClientForge.Api.TypeName
import ClientForge.Api.Warning
import ClientForge.Client
import ClientForge.Client.Core
import ClientForge.Codegen.Declaration
import ClientForge.Codegen.Endpoint
import ClientForge.Codegen.Manifest
import ClientForge.Codegen.Plan
import ClientForge.Codegen.Rename
import ClientForge.Codegen.Scope
import ClientForge.Codegen.ScopePlan
import ClientForge.Codegen.UrlPath
import ClientForge.CommandLine.Arguments
import ClientForge.CommandLine.Run
import ClientForge.Config
import ClientForge.Config.File
import ClientForge.Digest.Sha256
import ClientForge.Disk.Basic
import ClientForge.Disk.IoError
import ClientForge.Disk.Path
import ClientForge.Failure
import ClientForge.Generator
import ClientForge.Host
import ClientForge.Http.Exchange
import ClientForge.Http.Message
import ClientForge.Http.Url
import ClientForge.Json.Basic
import ClientForge.Json.Binary64
import ClientForge.Json.Canonical
import ClientForge.Json.Parse
import ClientForge.Json.Text
import ClientForge.Main
import ClientForge.Naming.Identifier
import ClientForge.Naming.Reserved
import ClientForge.Naming.Title
import ClientForge.Proofs.Accounting
import ClientForge.Proofs.ArgumentNames
import ClientForge.Proofs.BuiltinRendering
import ClientForge.Proofs.CanonicalForm
import ClientForge.Proofs.Characters
import ClientForge.Proofs.CommentLines
import ClientForge.Proofs.Components
import ClientForge.Proofs.ConvenienceArguments
import ClientForge.Proofs.CurationFailure
import ClientForge.Proofs.DiskFiles
import ClientForge.Proofs.DiskGrowth
import ClientForge.Proofs.DotSegments
import ClientForge.Proofs.Emission
import ClientForge.Proofs.FinalList
import ClientForge.Proofs.FunctionNames
import ClientForge.Proofs.GeneratedParameters
import ClientForge.Proofs.Identifiers
import ClientForge.Proofs.IndentedText
import ClientForge.Proofs.Interruption
import ClientForge.Proofs.KeyOrder
import ClientForge.Proofs.LowerCase
import ClientForge.Proofs.LowerStable
import ClientForge.Proofs.MethodAgreement
import ClientForge.Proofs.MethodText
import ClientForge.Proofs.Outcome
import ClientForge.Proofs.OutputDirectory
import ClientForge.Proofs.PathArguments
import ClientForge.Proofs.PercentEncoding
import ClientForge.Proofs.Placeholders
import ClientForge.Proofs.PlanLaws
import ClientForge.Proofs.ReferenceLookup
import ClientForge.Proofs.ReferenceTransparency
import ClientForge.Proofs.ReferencedSchemas
import ClientForge.Proofs.Rendering
import ClientForge.Proofs.RequestTargets
import ClientForge.Proofs.Rerun
import ClientForge.Proofs.ScopeFiles
import ClientForge.Proofs.SharedFiles
import ClientForge.Proofs.Signature
import ClientForge.Proofs.TemplateSupply
import ClientForge.Proofs.UrlPaths
import ClientForge.Proofs.UrlReading
import ClientForge.Proofs.WorldRun
import ClientForge.Proofs.WrittenJson
import ClientForge.Source
import ClientForge.Table
import ClientForge.Template.Basic
import ClientForge.Template.Builtin
import ClientForge.Template.Filter
import ClientForge.Template.Parse
import ClientForge.Template.Registry
import ClientForge.Template.Render
import ClientForge.Text.Blank
import ClientForge.Text.Case
import ClientForge.Text.CaseTable
import ClientForge.Text.Comment
import ClientForge.Text.Letter
import ClientForge.Text.LetterTable
import ClientForge.Text.Lossy
import ClientForge.Text.Order
import ClientForge.Text.Search
import ClientForge.Text.Stripe
import ClientForge.Toml.Parse
import ClientForge.Toml.Scalar
import ClientForge.Toml.Value
import ClientForge.World
import ClientForge.Yaml.Cursor
import ClientForge.Yaml.Document
import ClientForge.Yaml.Node
import ClientForge.Yaml.Scalar
import ClientForge.Yaml.Tag
import ClientForge.Yaml.Token
import ClientForge.Proofs.VisibleText
import ClientForge.Proofs.CommentText
import ClientForge.Proofs.FileFormats
import ClientForge.Proofs.TemplateListing
import ClientForge.Proofs.FileHistory
import ClientForge.Proofs.ClientAddress
import ClientForge.Proofs.ClientCalls
import ClientForge.Proofs.SpelledWords
import ClientForge.Proofs.MethodNames
import ClientForge.Proofs.StringLiterals
import ClientForge.Proofs.EmittedLiterals
import ClientForge.Proofs.ScopeSelection
import ClientForge.Proofs.ConvenienceSubstitution
