import GridGateway.Bus.Call
import GridGateway.Bus.Envelope
import GridGateway.Bus.Error
import GridGateway.Bus.Fetch
import GridGateway.Bus.Relay
import GridGateway.Bus.Report
import GridGateway.Bus.Script
import GridGateway.Client.Call
import GridGateway.Client.Error
import GridGateway.Client.Flaky
import GridGateway.Client.Remote
import GridGateway.Client.Retry
import GridGateway.Config.CommandLine
import GridGateway.Config.Database
import GridGateway.Config.File
import GridGateway.Config.Gateway
import GridGateway.Config.Usage
import GridGateway.Decimal.Shortest
import GridGateway.Entity.Capacity
import GridGateway.Entity.Contract
import GridGateway.Entity.ContractKind
import GridGateway.Entity.Counters
import GridGateway.Entity.Farm
import GridGateway.Entity.Node
import GridGateway.Entity.NodeDetail
import GridGateway.Entity.Status
import GridGateway.Grid.Basic
import GridGateway.Grid.Inventory
import GridGateway.Grid.Matching
import GridGateway.Http.Address
import GridGateway.Http.BaseUrl
import GridGateway.Http.Failure
import GridGateway.Http.Link
import GridGateway.Http.Message
import GridGateway.Http.NumericHost
import GridGateway.Http.Route
import GridGateway.Http.Router
import GridGateway.Http.Service
import GridGateway.Inventory
import GridGateway.Inventory.Failing
import GridGateway.Json.Basic
import GridGateway.Json.DecodeError
import GridGateway.Json.Decoder
import GridGateway.Json.Draft
import GridGateway.Json.Number
import GridGateway.Json.Printer
import GridGateway.Json.Scanner
import GridGateway.Main
import GridGateway.Proofs.Bus.Deadline
import GridGateway.Proofs.Bus.Instant
import GridGateway.Proofs.Bus.Payload
import GridGateway.Proofs.Bus.Polling
import GridGateway.Proofs.Bus.Replies
import GridGateway.Proofs.Client.OverGrid
import GridGateway.Proofs.Client.Tries
import GridGateway.Proofs.Decimal.Shortest
import GridGateway.Proofs.Entity.Nesting
import GridGateway.Proofs.Entity.ReadBack
import GridGateway.Proofs.Entity.Wire
import GridGateway.Proofs.Grid.Answers
import GridGateway.Proofs.Grid.Deployments
import GridGateway.Proofs.Grid.Matching
import GridGateway.Proofs.Grid.Pages
import GridGateway.Proofs.Grid.RowOrder
import GridGateway.Proofs.Grid.Sorting
import GridGateway.Proofs.Grid.Statistics
import GridGateway.Proofs.Grid.Unread
import GridGateway.Proofs.Http.BadQueries
import GridGateway.Proofs.Http.Calls
import GridGateway.Proofs.Http.Gateway
import GridGateway.Proofs.Http.Gateways
import GridGateway.Proofs.Http.Nesting
import GridGateway.Proofs.Http.NodeViews
import GridGateway.Proofs.Http.Noninterference
import GridGateway.Proofs.Http.OnDemand
import GridGateway.Proofs.Http.OverGrid
import GridGateway.Proofs.Http.Pages
import GridGateway.Proofs.Http.Paths
import GridGateway.Proofs.Json.Canonical
import GridGateway.Proofs.Json.Fields
import GridGateway.Proofs.Json.Members
import GridGateway.Proofs.Json.Outcomes
import GridGateway.Proofs.Json.Parsing
import GridGateway.Proofs.Json.ReadBack
import GridGateway.Proofs.Json.Records
import GridGateway.Proofs.Json.ScanFloat
import GridGateway.Proofs.Json.ScanNumber
import GridGateway.Proofs.Json.ScanPrinted
import GridGateway.Proofs.Keys
import GridGateway.Proofs.Query.Fields
import GridGateway.Proofs.Query.LastPair
import GridGateway.Proofs.Query.LimitPairs
import GridGateway.Proofs.Query.Meaning
import GridGateway.Proofs.Query.Pages
import GridGateway.Proofs.Query.Pairs
import GridGateway.Proofs.Query.Refusals
import GridGateway.Proofs.Query.RoundTrip
import GridGateway.Proofs.Query.Slots
import GridGateway.Proofs.Runs
import GridGateway.Proofs.Sql.Conversation
import GridGateway.Proofs.Sql.CountAndPage
import GridGateway.Proofs.Sql.Filters
import GridGateway.Proofs.Sql.Liveness
import GridGateway.Proofs.Sql.Numbering
import GridGateway.Proofs.Sql.Patterns
import GridGateway.Proofs.Sql.Phrases
import GridGateway.Proofs.Sql.Placeholders
import GridGateway.Proofs.Sql.Plans
import GridGateway.Proofs.Sql.Questions
import GridGateway.Proofs.Sql.Readers
import GridGateway.Proofs.Sql.Recovery
import GridGateway.Proofs.Sql.Shape
import GridGateway.Proofs.Sql.TelemetryRows
import GridGateway.Proofs.Sql.Upserts
import GridGateway.Proofs.Telemetry.Accounts
import GridGateway.Proofs.Telemetry.History
import GridGateway.Proofs.Telemetry.Jobs
import GridGateway.Proofs.Telemetry.Moves
import GridGateway.Proofs.Telemetry.OneRound
import GridGateway.Proofs.Telemetry.Records
import GridGateway.Proofs.Telemetry.Refresh
import GridGateway.Proofs.Telemetry.Starts
import GridGateway.Proofs.Telemetry.Targets
import GridGateway.Proofs.Text.Base64
import GridGateway.Proofs.Text.Integer
import GridGateway.Proofs.Text.Percent
import GridGateway.Query.Error
import GridGateway.Query.Filter
import GridGateway.Query.Limit
import GridGateway.Query.Slot
import GridGateway.Query.Text
import GridGateway.Sql.DerivedObjects
import GridGateway.Sql.Inventory
import GridGateway.Sql.Listing
import GridGateway.Sql.Predicate
import GridGateway.Sql.Row
import GridGateway.Sql.Session
import GridGateway.Sql.Sources
import GridGateway.Sql.Statement
import GridGateway.Sql.Statistics
import GridGateway.Sql.TelemetryTable
import GridGateway.Telemetry.Manager
import GridGateway.Telemetry.Record
import GridGateway.Telemetry.Refresh
import GridGateway.Telemetry.Rounds
import GridGateway.Telemetry.Schedule
import GridGateway.Telemetry.Settings
import GridGateway.Text.Base64
import GridGateway.Text.Blank
import GridGateway.Text.CaseTable
import GridGateway.Text.Elapsed
import GridGateway.Text.Integer
import GridGateway.Text.Lowercase
import GridGateway.Text.Percent
import GridGateway.Text.Printable
import GridGateway.Text.Quoted
import GridGateway.Text.Ranges
import GridGateway.Text.Substring
import GridGateway.Toml.Document
import GridGateway.Toml.Quoted
import GridGateway.Toml.Scalar
import GridGateway.Toml.Tree
import GridGateway.Toml.Value
