import TraceRelay.Agent
import TraceRelay.Aggregate.Bucket
import TraceRelay.Aggregate.Intake
import TraceRelay.Aggregate.Table
import TraceRelay.Aggregate.Totals
import TraceRelay.CommandLine
import TraceRelay.Control.Http
import TraceRelay.Control.Poll
import TraceRelay.Decimal.Integer
import TraceRelay.Decimal.Rounding
import TraceRelay.Decimal.Shortest
import TraceRelay.HourTimer
import TraceRelay.Inbound.Frame
import TraceRelay.Inbound.Place
import TraceRelay.Inbound.SocketFile
import TraceRelay.Ingest.Body
import TraceRelay.Ingest.Error
import TraceRelay.Ingest.Line
import TraceRelay.Ingest.Nesting
import TraceRelay.Keyed
import TraceRelay.Log.Clock
import TraceRelay.Log.Duration
import TraceRelay.Log.Filter
import TraceRelay.Log.Line
import TraceRelay.Log.Pattern
import TraceRelay.Main
import TraceRelay.Message
import TraceRelay.MessageId
import TraceRelay.Outbound.Delivery
import TraceRelay.Outbound.Outbox
import TraceRelay.Outbound.Supervisor
import TraceRelay.Outbound.Worker
import TraceRelay.Pipeline
import TraceRelay.Queue
import TraceRelay.Record.Encoding
import TraceRelay.Record.Reading
import TraceRelay.Record.Varint
import TraceRelay.Routing.Address
import TraceRelay.Routing.Property
import TraceRelay.Routing.State
import TraceRelay.Settings.Basic
import TraceRelay.Settings.Inline
import TraceRelay.Settings.Layers
import TraceRelay.Settings.Typed
import TraceRelay.Settings.Value
import TraceRelay.Settings.Yaml.BlockText
import TraceRelay.Settings.Yaml.Gap
import TraceRelay.Settings.Yaml.Glyph
import TraceRelay.Settings.Yaml.Layout
import TraceRelay.Settings.Yaml.Meaning
import TraceRelay.Settings.Yaml.Node
import TraceRelay.Settings.Yaml.Plain
import TraceRelay.Settings.Yaml.Quoted
import TraceRelay.Settings.Yaml.Scalar
import TraceRelay.Settings.Yaml.Tag
import TraceRelay.Settings.Yaml.Token
import TraceRelay.Text.Blank
import TraceRelay.Text.Casing
import TraceRelay.Text.Letters
import TraceRelay.Text.Quoted
import TraceRelay.Text.Ranges
import TraceRelay.Text.Scan
import TraceRelay.Text.Split
import TraceRelay.Text.Unprintable
import TraceRelay.Text.Utf8
import TraceRelay.Proofs.Aggregate.Counts
import TraceRelay.Proofs.Aggregate.Shares
import TraceRelay.Proofs.Aggregate.Tray
import TraceRelay.Proofs.Pipeline.Dispatch
import TraceRelay.Proofs.Pipeline.Balance
import TraceRelay.Proofs.Ingest.Grammar
import TraceRelay.Proofs.Ingest.Reading
import TraceRelay.Proofs.Text.Utf8
import TraceRelay.Proofs.Ingest.Stack
import TraceRelay.Proofs.Ingest.Verdict
import TraceRelay.Proofs.Ingest.Clean
import TraceRelay.Proofs.Ingest.Rendering
import TraceRelay.Proofs.Ingest.RoundTrip
import TraceRelay.Proofs.Record.Buffers
import TraceRelay.Proofs.Record.RoundTrip
import TraceRelay.Proofs.MessageId.Counters
import TraceRelay.Proofs.MessageId.Unique
import TraceRelay.Proofs.Outbound.Steps
import TraceRelay.Proofs.Outbound.Custody
import TraceRelay.Proofs.Outbound.Alone
import TraceRelay.Proofs.Outbound.Reuse
import TraceRelay.Proofs.Outbound.Drain
import TraceRelay.Proofs.Pipeline.Scene
import TraceRelay.Proofs.Pipeline.Shutdown
import TraceRelay.Proofs.MessageId.Uniform
import TraceRelay.Proofs.Outbound.Lanes
import TraceRelay.Proofs.Outbound.Crew
import TraceRelay.Proofs.Outbound.Generations
import TraceRelay.Proofs.Inbound.Framing
import TraceRelay.Proofs.Inbound.Serving
import TraceRelay.Proofs.Routing.Addresses
import TraceRelay.Proofs.Routing.Runs
import TraceRelay.Proofs.Aggregate.Groups
import TraceRelay.Proofs.Aggregate.Histogram
import TraceRelay.Proofs.Aggregate.Tallies
import TraceRelay.Proofs.Aggregate.Windows
import TraceRelay.Proofs.Pipeline.Feeds
import TraceRelay.Proofs.Routing.Ratio
import TraceRelay.Proofs.Pipeline.Cadence
import TraceRelay.Proofs.Pipeline.Sightings
import TraceRelay.Proofs.Ingest.Failures
import TraceRelay.Proofs.Outbound.Batch
import TraceRelay.Proofs.Outbound.Lifetimes
import TraceRelay.Proofs.Pipeline.Quiet
import TraceRelay.Proofs.Record.Size
import TraceRelay.Proofs.Aggregate.Buckets
import TraceRelay.Proofs.Aggregate.Summaries
import TraceRelay.Proofs.Ingest.Numbering
import TraceRelay.Proofs.Routing.Spellings
import TraceRelay.Proofs.Control.Failover
import TraceRelay.Proofs.Routing.Admission
import TraceRelay.Proofs.Routing.Entities
import TraceRelay.Proofs.Routing.Documents
import TraceRelay.Proofs.Routing.OnePass
import TraceRelay.Proofs.MessageId.Hours
import TraceRelay.Proofs.Routing.Dotted
import TraceRelay.Proofs.Settings.Checked
import TraceRelay.Proofs.Log.Lines
import TraceRelay.Proofs.Ingest.LogLines
import TraceRelay.Proofs.Record.Canonical
