import Courier.Arguments
import Courier.Blueprint
import Courier.Blueprint.Instance
import Courier.Connections
import Courier.Connections.Session
import Courier.Cycle
import Courier.Delivery.Attempts
import Courier.Delivery.Consumption
import Courier.Delivery.Course
import Courier.Delivery.Outcome
import Courier.Delivery.Record
import Courier.Delivery.Settlement
import Courier.Delivery.Task
import Courier.Failure
import Courier.FieldValue
import Courier.Gate
import Courier.Handler
import Courier.Intake
import Courier.Json.Fault
import Courier.Json.Ignored
import Courier.Json.Literal
import Courier.Json.Number
import Courier.Json.Number.Scan
import Courier.Json.Scan
import Courier.Json.Shape
import Courier.Json.Value
import Courier.KeyedList
import Courier.Listener
import Courier.Listener.Timeline
import Courier.Log
import Courier.Message
import Courier.Message.Broken
import Courier.Message.Document
import Courier.Message.Parcel
import Courier.Network
import Courier.Number.Double
import Courier.Number.Shortest
import Courier.Pool
import Courier.Pool.Session
import Courier.Proofs.Arguments.Merging
import Courier.Proofs.Blueprint.Acceptance
import Courier.Proofs.Connections.Attempts
import Courier.Proofs.Connections.Changes
import Courier.Proofs.Connections.GivingUp
import Courier.Proofs.Connections.Moves
import Courier.Proofs.Connections.Safety
import Courier.Proofs.Connections.Sound
import Courier.Proofs.Connections.Turns
import Courier.Proofs.Delivery.Counts
import Courier.Proofs.Delivery.Elsewhere
import Courier.Proofs.Delivery.Retries
import Courier.Proofs.Delivery.Settlements
import Courier.Proofs.Intake.Cancellation
import Courier.Proofs.Intake.Moves
import Courier.Proofs.Intake.Permits
import Courier.Proofs.Intake.Sound
import Courier.Proofs.Json.Digits
import Courier.Proofs.Json.Records
import Courier.Proofs.Json.Texts
import Courier.Proofs.Listener.Completion
import Courier.Proofs.Listener.Returns
import Courier.Proofs.Listener.Timeline
import Courier.Proofs.Lookup
import Courier.Proofs.Message.Parcels
import Courier.Proofs.Pool.Accounts
import Courier.Proofs.Pool.Bounds
import Courier.Proofs.Pool.Turns
import Courier.Proofs.Publisher.Handover
import Courier.Proofs.Publisher.Links
import Courier.Proofs.Publisher.Outcomes
import Courier.Proofs.Publisher.Progress
import Courier.Proofs.Publisher.Signal
import Courier.Proofs.Publisher.Starvation
import Courier.Proofs.Relay.Creation
import Courier.Proofs.Relay.Intakes
import Courier.Proofs.Relay.Ledgers
import Courier.Proofs.Relay.Moves
import Courier.Proofs.Relay.Parallelism
import Courier.Proofs.Relay.Passes
import Courier.Proofs.Relay.Readers
import Courier.Proofs.Relay.Readiness
import Courier.Proofs.Relay.Sessions
import Courier.Proofs.Relay.Shutdowns
import Courier.Proofs.Relay.Stopping
import Courier.Proofs.Relay.Stranded
import Courier.Proofs.Retry.Trials
import Courier.Proofs.Settings.Addresses
import Courier.Proofs.Settings.Milliseconds
import Courier.Proofs.Settings.Rereading
import Courier.Proofs.Startup.Declaring
import Courier.Proofs.Startup.Granted
import Courier.Proofs.Startup.Instance
import Courier.Proofs.Startup.Isolation
import Courier.Proofs.Startup.Linking
import Courier.Proofs.Startup.Pass
import Courier.Proofs.Startup.Transcript
import Courier.Proofs.Text.ByteOrder
import Courier.Proofs.Text.Lowercasing
import Courier.Proofs.Topology.Agreement
import Courier.Proofs.Topology.Cycles
import Courier.Proofs.Topology.Delays
import Courier.Proofs.Topology.InitOrder
import Courier.Proofs.Topology.Installing
import Courier.Proofs.Topology.Lengths
import Courier.Proofs.Topology.Overrides
import Courier.Proofs.Topology.Redeclarations
import Courier.Proofs.Topology.References
import Courier.Proofs.Topology.Rounds
import Courier.Proofs.Topology.Separation
import Courier.Proofs.Topology.Wiring
import Courier.Proofs.TraceHeaders.Passage
import Courier.Publication
import Courier.Publisher
import Courier.Relay
import Courier.Relay.Session
import Courier.Required
import Courier.Retry
import Courier.Settings.Connection
import Courier.Settings.Consumer
import Courier.Settings.Producer
import Courier.Span
import Courier.Startup
import Courier.Startup.Job
import Courier.Subscription
import Courier.Text.Blank
import Courier.Text.Lowercase
import Courier.Text.Lowercase.Table
import Courier.Text.Quoted
import Courier.Text.Quoted.Table
import Courier.Text.Ranges
import Courier.Text.Utf8
import Courier.Topology.Broker
import Courier.Topology.Channel
import Courier.Topology.Exchange
import Courier.Topology.Init
import Courier.Topology.Names
import Courier.Topology.Operation
import Courier.Topology.Plan
import Courier.Topology.Queue
import Courier.TraceHeaders
