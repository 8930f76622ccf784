import Stowage.Calendar
import Stowage.Catalog
import Stowage.Charset.Basic
import Stowage.Charset.Chart.Chinese
import Stowage.Charset.Chart.Japanese
import Stowage.Charset.Chart.Korean
import Stowage.Charset.Page
import Stowage.Charset.Spelled
import Stowage.Charset.Switched
import Stowage.Charset.Utf7
import Stowage.Charset.Wide
import Stowage.Command.Basic
import Stowage.Command.Line
import Stowage.Command.Output
import Stowage.Command.Run
import Stowage.Config.Environment
import Stowage.Config.Load
import Stowage.Config.Merge
import Stowage.Container.Node
import Stowage.Container.Pipeline
import Stowage.Container.Record
import Stowage.Container.Stage
import Stowage.Container.Vocabulary
import Stowage.Datanode
import Stowage.Decimal.Double
import Stowage.Decimal.Fixed
import Stowage.Decimal.Integer
import Stowage.Decimal.Literal
import Stowage.Decimal.Shortest
import Stowage.Deflate.Basic
import Stowage.Deflate.Block
import Stowage.Deflate.Code
import Stowage.Deflate.Envelope
import Stowage.Failure.Basic
import Stowage.Failure.Detail
import Stowage.Failure.Fault
import Stowage.Failure.Remote
import Stowage.Hostname.Label
import Stowage.Hostname.Letters
import Stowage.Hostname.Punycode
import Stowage.Http.Body
import Stowage.Http.Client
import Stowage.Http.ContentEncoding
import Stowage.Http.ContentType
import Stowage.Http.Host
import Stowage.Http.Message
import Stowage.Http.Network
import Stowage.Http.Percent
import Stowage.Http.Query
import Stowage.Http.Redirect
import Stowage.Http.Storage
import Stowage.Http.Url
import Stowage.Instrument.Basic
import Stowage.Instrument.Concern
import Stowage.Instrument.Operation
import Stowage.Instrument.Rehearsal
import Stowage.Instrument.Signature
import Stowage.Json.Basic
import Stowage.Json.Printer
import Stowage.Json.Reader
import Stowage.Labels
import Stowage.Log.Logger
import Stowage.Log.Record
import Stowage.Log.Template
import Stowage.Main
import Stowage.Placement
import Stowage.Pool.Basic
import Stowage.Pool.Clients
import Stowage.Pool.Connector
import Stowage.Proofs.Command.Printed
import Stowage.Proofs.Command.Requests
import Stowage.Proofs.Command.Told
import Stowage.Proofs.Config.Collisions
import Stowage.Proofs.Config.Keyed
import Stowage.Proofs.Config.Precedence
import Stowage.Proofs.Config.Separate
import Stowage.Proofs.Config.Variables
import Stowage.Proofs.Container.Documents
import Stowage.Proofs.Container.RoundTrip
import Stowage.Proofs.Flow.Gauge
import Stowage.Proofs.Flow.Laws
import Stowage.Proofs.Http.Faults
import Stowage.Proofs.Instrument.Faithful
import Stowage.Proofs.Instrument.Method
import Stowage.Proofs.Instrument.Mirror
import Stowage.Proofs.Instrument.Notes
import Stowage.Proofs.Instrument.Scoped
import Stowage.Proofs.Instrument.Settled
import Stowage.Proofs.Instrument.Spans
import Stowage.Proofs.Instrument.Transparent
import Stowage.Proofs.Json.Bounded
import Stowage.Proofs.Json.RoundTrip
import Stowage.Proofs.Json.Tokens
import Stowage.Proofs.Log.Configured
import Stowage.Proofs.Log.Core
import Stowage.Proofs.Log.Discreet
import Stowage.Proofs.Pool.Books
import Stowage.Proofs.Pool.Connections
import Stowage.Proofs.Pool.Conservation
import Stowage.Proofs.Pool.InUse
import Stowage.Proofs.Pool.Invariant
import Stowage.Proofs.Pool.Operations
import Stowage.Proofs.Pool.Quiescent
import Stowage.Proofs.Pool.Recency
import Stowage.Proofs.Pool.Targets
import Stowage.Proofs.Service.Adapters
import Stowage.Proofs.Service.Bounded
import Stowage.Proofs.Service.Classified
import Stowage.Proofs.Service.Confirmed
import Stowage.Proofs.Service.Errands
import Stowage.Proofs.Service.FailStop
import Stowage.Proofs.Service.Fresh
import Stowage.Proofs.Service.Quiescent
import Stowage.Proofs.Service.Relayed
import Stowage.Proofs.Service.Remarks
import Stowage.Proofs.Service.Remote
import Stowage.Proofs.Service.Requests
import Stowage.Proofs.Service.Sent
import Stowage.Proofs.Service.Shape
import Stowage.Proofs.Service.Watched
import Stowage.Proofs.Service.WireModels
import Stowage.Proofs.Value.Entries
import Stowage.Proofs.Value.Labels
import Stowage.Service.Operations
import Stowage.Service.Rehearsal
import Stowage.Service.Wiring
import Stowage.Session
import Stowage.Settings.Basic
import Stowage.Settings.Component
import Stowage.Text.Blank
import Stowage.Text.Coding
import Stowage.Text.Composition
import Stowage.Text.LetterCase
import Stowage.Text.Mark
import Stowage.Text.Printable
import Stowage.Text.Quoted
import Stowage.Text.Split
import Stowage.TraceId
import Stowage.Validation.Checked
import Stowage.Validation.Issue
import Stowage.Validation.Model
import Stowage.Validation.Scalar
import Stowage.Value.Basic
import Stowage.Value.Parts
import Stowage.Value.Serialize
import Stowage.Value.Text
import Stowage.Value.Wire
import Stowage.Yaml.Cursor
import Stowage.Yaml.Document
import Stowage.Yaml.Kind
import Stowage.Yaml.Lexer
import Stowage.Yaml.Node
import Stowage.Yaml.Scalar
import Stowage.Yaml.ScalarText
import Stowage.Yaml.Token
import Stowage.Proofs.Pool.Attached
import Stowage.Proofs.Pool.Acquiring
import Stowage.Proofs.Pool.Counts
import Stowage.Proofs.Pool.Nested
import Stowage.Proofs.Pool.Capacity
import Stowage.Proofs.Service.Calls
import Stowage.Proofs.Service.Traces
import Stowage.Proofs.Service.Foreseen
import Stowage.Proofs.Command.Exit
import Stowage.Proofs.Decimal.Literals
import Stowage.Proofs.Json.Reading
import Stowage.Proofs.Config.Coerced
import Stowage.Proofs.Config.Typed
import Stowage.Proofs.Container.Grammar
import Stowage.Proofs.Service.Decoded
import Stowage.Proofs.Settings.Endpoint
import Stowage.Proofs.Instrument.Binding
import Stowage.Proofs.Json.Legible
import Stowage.Proofs.Log.Lines
import Stowage.Proofs.Decimal.Rounding
import Stowage.Proofs.Decimal.Shortest
import Stowage.Proofs.Json.Numbers
import Stowage.Proofs.Command.Serialized
import Stowage.Proofs.Text.Split
import Stowage.Proofs.Text.LetterCase
import Stowage.Proofs.Config.Names
import Stowage.Proofs.Config.Names
