import DeliveryProbe.CommandLine.Arguments
import DeliveryProbe.CommandLine.Command
import DeliveryProbe.CommandLine.Similarity
import DeliveryProbe.Emitter
import DeliveryProbe.Endpoint
import DeliveryProbe.Event
import DeliveryProbe.Failure
import DeliveryProbe.Http.Client
import DeliveryProbe.Http.Request
import DeliveryProbe.Http.Server
import DeliveryProbe.Http.Target
import DeliveryProbe.Json.Reader
import DeliveryProbe.Json.Token
import DeliveryProbe.Json.Value
import DeliveryProbe.Json.Writer
import DeliveryProbe.LogFilter
import DeliveryProbe.Main
import DeliveryProbe.Marker
import DeliveryProbe.Monitor.Pipeline
import DeliveryProbe.Monitor.Run
import DeliveryProbe.Network.SocketAddress
import DeliveryProbe.Number.Binary64
import DeliveryProbe.Number.Digits
import DeliveryProbe.Number.Shortest
import DeliveryProbe.Program.Draining
import DeliveryProbe.Program.Monitoring
import DeliveryProbe.Program.Output
import DeliveryProbe.Proofs.Verdict
import DeliveryProbe.Reconcile
import DeliveryProbe.Recorder
import DeliveryProbe.Sample
import DeliveryProbe.Schedule.Shutdown
import DeliveryProbe.Schedule.Task
import DeliveryProbe.Schedule.Timer
import DeliveryProbe.Search
import DeliveryProbe.Session
import DeliveryProbe.Settings.Complaint
import DeliveryProbe.Settings.Configuration
import DeliveryProbe.Settings.EnvironmentFile
import DeliveryProbe.Settings.Key
import DeliveryProbe.Settings.Layers
import DeliveryProbe.Store
import DeliveryProbe.Telemetry
import DeliveryProbe.Text.Alphanumeric
import DeliveryProbe.Text.Blank
import DeliveryProbe.Text.Occurrence
import DeliveryProbe.Text.Quoted
import DeliveryProbe.Text.Terminal
import DeliveryProbe.Text.Utf8
import DeliveryProbe.Time.Date
import DeliveryProbe.Time.Instant
import DeliveryProbe.Time.Text
import DeliveryProbe.Toml.Attempt
import DeliveryProbe.Toml.Fault
import DeliveryProbe.Toml.Outline.Definitions
import DeliveryProbe.Toml.Outline.Document
import DeliveryProbe.Toml.Outline.Scalar
import DeliveryProbe.Toml.Reader
import DeliveryProbe.Toml.Value
import DeliveryProbe.Toml.Writer
import DeliveryProbe.Tracker
import DeliveryProbe.Watcher
import DeliveryProbe.Proofs.Ledger
import DeliveryProbe.Proofs.Conservation
import DeliveryProbe.Proofs.WatcherRun
import DeliveryProbe.Proofs.LifeCycle
import DeliveryProbe.Proofs.Recording
import DeliveryProbe.Proofs.Erasure
import DeliveryProbe.Proofs.Course
import DeliveryProbe.Proofs.TickSpacing
import DeliveryProbe.Proofs.RunHistory
import DeliveryProbe.Proofs.Stopping
import DeliveryProbe.Proofs.RunSteps
import DeliveryProbe.Proofs.Consistency
import DeliveryProbe.Proofs.Custody
import DeliveryProbe.Proofs.Calendar
import DeliveryProbe.Proofs.Rounding
import DeliveryProbe.Proofs.Numerals
import DeliveryProbe.Proofs.Timestamp
import DeliveryProbe.Proofs.Range
import DeliveryProbe.Proofs.Elapsed
import DeliveryProbe.Proofs.Mention
import DeliveryProbe.Proofs.Accuracy
import DeliveryProbe.Proofs.Independence
import DeliveryProbe.Proofs.JsonTokens
import DeliveryProbe.Proofs.JsonGrammar
import DeliveryProbe.Proofs.JsonRoundTrip
import DeliveryProbe.Proofs.SearchBody
import DeliveryProbe.Proofs.Acceptance
import DeliveryProbe.Proofs.Passes
import DeliveryProbe.Proofs.Timetable
import DeliveryProbe.Proofs.GracefulStop
import DeliveryProbe.Proofs.Backlog
import DeliveryProbe.Proofs.Accounting
import DeliveryProbe.Proofs.Layering
import DeliveryProbe.Proofs.Attribution
import DeliveryProbe.Proofs.Isolation
import DeliveryProbe.Proofs.Batches
import DeliveryProbe.Proofs.Limits
import DeliveryProbe.Proofs.Seconds
import DeliveryProbe.Proofs.Bands
import DeliveryProbe.Proofs.ShortestText
import DeliveryProbe.Proofs.DriftText
import DeliveryProbe.Proofs.Receipts
import DeliveryProbe.Proofs.Provenance
import DeliveryProbe.Proofs.Recognition
import DeliveryProbe.Proofs.Presence
import DeliveryProbe.Proofs.SystemName
import DeliveryProbe.Proofs.LineIdentity
import DeliveryProbe.Proofs.RequestDump
import DeliveryProbe.Proofs.SettingsFile
