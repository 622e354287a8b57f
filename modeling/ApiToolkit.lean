import ApiToolkit.Client.Arguments
import ApiToolkit.Client.Call
import ApiToolkit.Client.Extension
import ApiToolkit.Client.Property
import ApiToolkit.Client.Settle
import ApiToolkit.Client.Value
import ApiToolkit.Client.World
import ApiToolkit.CommandLine.Flag
import ApiToolkit.CommandLine.Request
import ApiToolkit.CommandLine.Run
import ApiToolkit.Entries
import ApiToolkit.Files.Fault
import ApiToolkit.Files.Host
import ApiToolkit.Files.Path
import ApiToolkit.Files.Tree
import ApiToolkit.Http.Error
import ApiToolkit.Http.Method
import ApiToolkit.Http.Options
import ApiToolkit.Http.Request
import ApiToolkit.Json.Basic
import ApiToolkit.Json.Reader
import ApiToolkit.Json.Writer
import ApiToolkit.Main
import ApiToolkit.Naming
import ApiToolkit.Number.Binary64
import ApiToolkit.Number.Decimal
import ApiToolkit.Number.Digit
import ApiToolkit.Path.Component
import ApiToolkit.Path.Join
import ApiToolkit.Path.Template
import ApiToolkit.Proofs.Client.Defaults
import ApiToolkit.Proofs.Client.Dispatch
import ApiToolkit.Proofs.Client.HandlerLinks
import ApiToolkit.Proofs.Client.Programs
import ApiToolkit.Proofs.Client.Route
import ApiToolkit.Proofs.Client.Session
import ApiToolkit.Proofs.Client.Writes
import ApiToolkit.Proofs.CommandLine.RoundTrip
import ApiToolkit.Proofs.Entries
import ApiToolkit.Proofs.Files.Host
import ApiToolkit.Proofs.Http.AbsentParameters
import ApiToolkit.Proofs.Http.Headers
import ApiToolkit.Proofs.Http.Options
import ApiToolkit.Proofs.Http.Origin
import ApiToolkit.Proofs.Http.PathParameters
import ApiToolkit.Proofs.Http.QueryParameters
import ApiToolkit.Proofs.Json.Parts
import ApiToolkit.Proofs.Json.Quote
import ApiToolkit.Proofs.Naming.Cuts
import ApiToolkit.Proofs.Naming.Identifier
import ApiToolkit.Proofs.Naming.Words
import ApiToolkit.Proofs.Path.Component
import ApiToolkit.Proofs.Path.Insertion
import ApiToolkit.Proofs.Path.Junctions
import ApiToolkit.Proofs.Path.Names
import ApiToolkit.Proofs.Path.Substitution
import ApiToolkit.Proofs.Schema.Acceptance
import ApiToolkit.Proofs.Schema.Documents
import ApiToolkit.Proofs.Schema.Inference
import ApiToolkit.Proofs.Schema.Listed
import ApiToolkit.Proofs.Schema.Merging
import ApiToolkit.Proofs.Schema.NormalForm
import ApiToolkit.Proofs.Schema.Reordering
import ApiToolkit.Proofs.Schema.Repetition
import ApiToolkit.Proofs.Schema.RoundTrip
import ApiToolkit.Proofs.Schema.Settled
import ApiToolkit.Proofs.Schema.Soundness
import ApiToolkit.Proofs.Schema.Strictness
import ApiToolkit.Proofs.Schema.Tidy
import ApiToolkit.Proofs.Schema.TypeReader
import ApiToolkit.Proofs.Schema.Widening
import ApiToolkit.Proofs.Service.Blocks
import ApiToolkit.Proofs.Service.Canonical
import ApiToolkit.Proofs.Service.Config
import ApiToolkit.Proofs.Service.HubLines
import ApiToolkit.Proofs.Service.HubNames
import ApiToolkit.Proofs.Service.Outcomes
import ApiToolkit.Proofs.Service.Output
import ApiToolkit.Proofs.Service.Registry
import ApiToolkit.Proofs.Text.Escapes
import ApiToolkit.Proofs.Text.Lines
import ApiToolkit.Proofs.Url.Authority
import ApiToolkit.Proofs.Url.Query
import ApiToolkit.Proofs.Url.Reading
import ApiToolkit.Schema.Basic
import ApiToolkit.Schema.Declaration
import ApiToolkit.Schema.Document
import ApiToolkit.Schema.Inference
import ApiToolkit.Schema.JsonSchema
import ApiToolkit.Schema.Merge
import ApiToolkit.Service.Compiler
import ApiToolkit.Service.Config
import ApiToolkit.Service.Config.Format
import ApiToolkit.Service.Declarations
import ApiToolkit.Service.Document
import ApiToolkit.Service.Error
import ApiToolkit.Service.Output
import ApiToolkit.Service.Registry
import ApiToolkit.Service.Source
import ApiToolkit.Text.Letter
import ApiToolkit.Text.Letter.Cases
import ApiToolkit.Text.Letter.Classes
import ApiToolkit.Text.Percent
import ApiToolkit.Text.Search
import ApiToolkit.Text.Utf8
import ApiToolkit.Toml.Document
import ApiToolkit.Toml.Scalar
import ApiToolkit.Toml.Table
import ApiToolkit.Url.Basic
import ApiToolkit.Url.Host
import ApiToolkit.Url.Query
import ApiToolkit.Yaml.Cursor
import ApiToolkit.Yaml.Document
import ApiToolkit.Yaml.Node
import ApiToolkit.Yaml.Scalar
import ApiToolkit.Yaml.ScalarType
import ApiToolkit.Yaml.Token
