import ObjectStore.Action
import ObjectStore.Client
import ObjectStore.Collection
import ObjectStore.Connection.Basic
import ObjectStore.Connection.Http
import ObjectStore.Connection.SessionFault
import ObjectStore.Failure.Basic
import ObjectStore.Failure.Fields
import ObjectStore.Failure.Invalid
import ObjectStore.Failure.Misuse
import ObjectStore.Filter.Basic
import ObjectStore.Filter.Build
import ObjectStore.Filter.Combine
import ObjectStore.Filter.Hash
import ObjectStore.Filter.Literal
import ObjectStore.Filter.Operator
import ObjectStore.Filter.Wire
import ObjectStore.GraphQL.Literal
import ObjectStore.Json.Printer
import ObjectStore.Json.Reader
import ObjectStore.Log.Format
import ObjectStore.Log.Level
import ObjectStore.Log.Registry
import ObjectStore.Number.Double
import ObjectStore.Number.Fixed
import ObjectStore.Number.Magnitude
import ObjectStore.Number.Power
import ObjectStore.Number.Quantity
import ObjectStore.Number.Reader
import ObjectStore.Number.Shortest
import ObjectStore.Number.Text
import ObjectStore.Objects
import ObjectStore.Query.Basic
import ObjectStore.Query.EmptySelection
import ObjectStore.Query.Fetch
import ObjectStore.Query.Fields
import ObjectStore.Query.Response
import ObjectStore.Query.Step
import ObjectStore.Rehearsal.Basic
import ObjectStore.Rehearsal.Script
import ObjectStore.Retry.Attempt
import ObjectStore.Retry.Classify
import ObjectStore.Retry.Policy
import ObjectStore.Retry.Run
import ObjectStore.Settings.Basic
import ObjectStore.Settings.Config
import ObjectStore.Settings.Path
import ObjectStore.Settings.Reader
import ObjectStore.Text.Base64
import ObjectStore.Text.Blank
import ObjectStore.Text.Capital
import ObjectStore.Text.Digits
import ObjectStore.Text.Escape
import ObjectStore.Text.Numeral
import ObjectStore.Text.Percent
import ObjectStore.Text.Printable
import ObjectStore.Text.Quoted
import ObjectStore.Time.Calendar
import ObjectStore.Time.Date
import ObjectStore.Time.DateTime
import ObjectStore.Time.Shown
import ObjectStore.Time.Zone
import ObjectStore.Validate
import ObjectStore.Value.Basic
import ObjectStore.Value.Copyable
import ObjectStore.Value.Entries
import ObjectStore.Value.Equality
import ObjectStore.Value.Mapping
import ObjectStore.Value.Order
import ObjectStore.Value.Shown
import ObjectStore.Value.Unfolded
import ObjectStore.Value.Writable
import ObjectStore.Vector
import ObjectStore.Yaml.Anchor
import ObjectStore.Yaml.BlockText
import ObjectStore.Yaml.Form
import ObjectStore.Yaml.Kind
import ObjectStore.Yaml.Layout
import ObjectStore.Yaml.Node
import ObjectStore.Yaml.Numeral
import ObjectStore.Yaml.Plain
import ObjectStore.Yaml.Quoted
import ObjectStore.Yaml.Reader
import ObjectStore.Yaml.Scalar
import ObjectStore.Yaml.Spot
import ObjectStore.Yaml.Tag
import ObjectStore.Yaml.Timestamp
import ObjectStore.Yaml.Token
import ObjectStore.Proofs.Except
import ObjectStore.Proofs.Value.Entries
import ObjectStore.Proofs.Value.Ascending
import ObjectStore.Proofs.Text.Digits
import ObjectStore.Proofs.Text.PercentDecoding
import ObjectStore.Proofs.Text.PathSegments
import ObjectStore.Proofs.Text.Words
import ObjectStore.Proofs.Retry.Pause
import ObjectStore.Proofs.Retry.Transient
import ObjectStore.Proofs.Retry.Journal
import ObjectStore.Proofs.Retry.Ending
import ObjectStore.Proofs.Retry.Trace
import ObjectStore.Proofs.Retry.Account
import ObjectStore.Proofs.Retry.Cancellation
import ObjectStore.Proofs.Retry.Nested
import ObjectStore.Proofs.Connection.Retried
import ObjectStore.Proofs.Connection.Calls
import ObjectStore.Proofs.Connection.Exchange
import ObjectStore.Proofs.Number.Rounding
import ObjectStore.Proofs.Number.ShortestDecimal
import ObjectStore.Proofs.Number.DecimalText
import ObjectStore.Proofs.Time.Calendar
import ObjectStore.Proofs.Time.Rfc3339
import ObjectStore.Proofs.Time.Stamp
import ObjectStore.Proofs.Json.StringLiteral
import ObjectStore.Proofs.GraphQL.Tokens
import ObjectStore.Proofs.GraphQL.NamedValues
import ObjectStore.Proofs.GraphQL.Phrase
import ObjectStore.Proofs.GraphQL.Selection
import ObjectStore.Proofs.GraphQL.StringValue
import ObjectStore.Proofs.Filter.Constructible
import ObjectStore.Proofs.Filter.Built
import ObjectStore.Proofs.Filter.WhereText
import ObjectStore.Proofs.Filter.Words
import ObjectStore.Proofs.Filter.Unambiguous
import ObjectStore.Proofs.Filter.NoTenant
import ObjectStore.Proofs.Filter.SentForm
import ObjectStore.Proofs.Filter.Candidates
import ObjectStore.Proofs.Filter.Grammar
import ObjectStore.Proofs.Filter.Criteria
import ObjectStore.Proofs.Filter.DateStamps
import ObjectStore.Proofs.Filter.Equality
import ObjectStore.Proofs.Filter.Hashing
import ObjectStore.Proofs.Filter.Interchange
import ObjectStore.Proofs.Settings.Accepted
import ObjectStore.Proofs.Query.Registers
import ObjectStore.Proofs.Query.TenantArgument
import ObjectStore.Proofs.Query.Unambiguous
import ObjectStore.Proofs.Query.Envelope
import ObjectStore.Proofs.Query.ErrorReports
import ObjectStore.Proofs.Query.IdBlocks
import ObjectStore.Proofs.Query.FieldForms
import ObjectStore.Proofs.Query.BlockParts
import ObjectStore.Proofs.Query.DefaultText
import ObjectStore.Proofs.Query.SetOrder
import ObjectStore.Proofs.Collection.CallTenants
import ObjectStore.Proofs.Collection.TenantIsolation
import ObjectStore.Proofs.Collection.CheckedFirst
import ObjectStore.Proofs.Collection.Names
import ObjectStore.Proofs.Collection.ObjectPaths
import ObjectStore.Proofs.Collection.Bodies
import ObjectStore.Proofs.Collection.Identifiers
import ObjectStore.Proofs.Number.WholeRange
import ObjectStore.Proofs.Vector.Coercion
import ObjectStore.Proofs.Number.RoundingBounds
import ObjectStore.Proofs.Vector.Scaling
import ObjectStore.Proofs.Retry.Backoff
import ObjectStore.Proofs.Settings.Parts
import ObjectStore.Proofs.Settings.LogLevel
import ObjectStore.Proofs.Settings.Rejected
import ObjectStore.Proofs.Settings.RoundTrip
