import TelemetryRelay.Http.Script
import TelemetryRelay.Main
import TelemetryRelay.Proofs.Batch.Conservation
import TelemetryRelay.Proofs.Batch.History
import TelemetryRelay.Proofs.Batch.Arrival
import TelemetryRelay.Proofs.Batch.Representation
import TelemetryRelay.Proofs.Dispatch.Plan
import TelemetryRelay.Proofs.Payload.Buildable
import TelemetryRelay.Proofs.Payload.Attribution
import TelemetryRelay.Proofs.Payload.Spans
import TelemetryRelay.Proofs.Payload.SpanIds
import TelemetryRelay.Proofs.Payload.Times
import TelemetryRelay.Proofs.Payload.FanOut
import TelemetryRelay.Proofs.Dispatch.Accounting
import TelemetryRelay.Proofs.Dispatch.Stages
import TelemetryRelay.Proofs.Dispatch.Tasks
import TelemetryRelay.Proofs.Dispatch.Conservation
import TelemetryRelay.Proofs.Dispatch.Order
import TelemetryRelay.Proofs.Harvester.Cycles
import TelemetryRelay.Proofs.Host.Fields
import TelemetryRelay.Proofs.Host.Events
import TelemetryRelay.Proofs.Http.Exchanges
import TelemetryRelay.Proofs.Http.Addresses
import TelemetryRelay.Proofs.Credential.Secrets
import TelemetryRelay.Proofs.Credential.Encodings
import TelemetryRelay.Proofs.Timestamp.Calendar
import TelemetryRelay.Proofs.Timestamp.Instants
import TelemetryRelay.Proofs.Log.Marking
import TelemetryRelay.Proofs.Session.Accounting
import TelemetryRelay.Proofs.Session.Rounds
import TelemetryRelay.Proofs.Session.Exits
import TelemetryRelay.Proofs.Session.Pipeline
import TelemetryRelay.Proofs.Session.Schedules
import TelemetryRelay.Proofs.Session.Requests
import TelemetryRelay.Proofs.Session.FailsClosed
import TelemetryRelay.Proofs.Dispatch.Framing
import TelemetryRelay.Proofs.Dispatch.Keys
import TelemetryRelay.Proofs.Session.SwitchedOff
import TelemetryRelay.Proofs.Dispatch.Routing
import TelemetryRelay.Proofs.Dispatch.Cancelled
import TelemetryRelay.Proofs.Split.Partition
import TelemetryRelay.Proofs.Split.Merging
import TelemetryRelay.Proofs.Text.Encoding
import TelemetryRelay.Proofs.Payload.FieldOrder
import TelemetryRelay.Proofs.Json.Grammar
import TelemetryRelay.Proofs.Json.Strings
import TelemetryRelay.Proofs.Json.Numbers
import TelemetryRelay.Proofs.Json.Skipping
import TelemetryRelay.Proofs.Json.Elements
import TelemetryRelay.Proofs.Json.Values
import TelemetryRelay.Proofs.Json.Compact
import TelemetryRelay.Proofs.Json.Shapes
import TelemetryRelay.Proofs.Json.Literals
import TelemetryRelay.Proofs.Json.Readable
import TelemetryRelay.Proofs.Json.Members
import TelemetryRelay.Proofs.Record.Renderings
import TelemetryRelay.Proofs.Record.Forms
import TelemetryRelay.Proofs.Payload.Messages
import TelemetryRelay.Proofs.Split.Visits
import TelemetryRelay.Proofs.Decimal.Numerals
import TelemetryRelay.Proofs.Settings.Verdicts
import TelemetryRelay.Proofs.Settings.Blanks
