import BackendMonitor.Bytes
import BackendMonitor.Client
import BackendMonitor.CommandLine
import BackendMonitor.CommandLine.Help
import BackendMonitor.CommandLine.Reading
import BackendMonitor.CommandLine.Whole
import BackendMonitor.Connection
import BackendMonitor.Connection.Address
import BackendMonitor.Connection.Backoff
import BackendMonitor.Connection.Frame
import BackendMonitor.Connection.Handshake
import BackendMonitor.Connection.Rehearsal
import BackendMonitor.Connection.Socket
import BackendMonitor.Connection.State
import BackendMonitor.Debounce.Pipeline
import BackendMonitor.Debounce.Rehearsal
import BackendMonitor.Decimal.Binary
import BackendMonitor.Decimal.Layout
import BackendMonitor.Decimal.Reading
import BackendMonitor.Decimal.Shortest
import BackendMonitor.Digest.Sha1
import BackendMonitor.Event
import BackendMonitor.Event.Activity
import BackendMonitor.Failure
import BackendMonitor.Health
import BackendMonitor.Http
import BackendMonitor.Http.Message
import BackendMonitor.Job
import BackendMonitor.Job.Snapshot
import BackendMonitor.Job.Status
import BackendMonitor.Job.Submission
import BackendMonitor.Json.Decoder
import BackendMonitor.Json.Fault
import BackendMonitor.Json.Literal
import BackendMonitor.Json.Printer
import BackendMonitor.Json.Reader
import BackendMonitor.Json.Token
import BackendMonitor.Json.Value
import BackendMonitor.Main
import BackendMonitor.Network
import BackendMonitor.Poller
import BackendMonitor.Poller.Epochs
import BackendMonitor.Poller.Rehearsal
import BackendMonitor.Poller.State
import BackendMonitor.Poller.Ticker
import BackendMonitor.Preview
import BackendMonitor.Program
import BackendMonitor.Progress
import BackendMonitor.Proofs.Job
import BackendMonitor.Proofs.Poller.Run
import BackendMonitor.Proofs.Poller.Turn
import BackendMonitor.Scan
import BackendMonitor.Schedule
import BackendMonitor.Settings
import BackendMonitor.Settings.Document
import BackendMonitor.Text.Base64
import BackendMonitor.Text.Blank
import BackendMonitor.Text.Composition
import BackendMonitor.Text.Direction
import BackendMonitor.Text.Hex
import BackendMonitor.Text.Joining
import BackendMonitor.Text.Mark
import BackendMonitor.Text.Pieces
import BackendMonitor.Text.Printable
import BackendMonitor.Text.Quoted
import BackendMonitor.Text.Table
import BackendMonitor.Text.Terminal
import BackendMonitor.Text.Unassigned
import BackendMonitor.Text.Utf8
import BackendMonitor.Uri
import BackendMonitor.Url
import BackendMonitor.Url.Domain
import BackendMonitor.Url.Domain.Folding
import BackendMonitor.Url.Escape
import BackendMonitor.Url.Host
import BackendMonitor.Url.Punycode
import BackendMonitor.Watch
import BackendMonitor.Watched
import BackendMonitor.Proofs.Poller.Coherence
import BackendMonitor.Proofs.Poller.Outcome
import BackendMonitor.Proofs.Connection.Run
import BackendMonitor.Proofs.Connection.Coherence
import BackendMonitor.Proofs.Connection.Backoff
import BackendMonitor.Proofs.Connection.Reconnect
import BackendMonitor.Proofs.Connection.Frames
import BackendMonitor.Proofs.Debounce.Turn
import BackendMonitor.Proofs.Debounce.Run
import BackendMonitor.Proofs.Debounce.Bursts
import BackendMonitor.Proofs.Poller.Calm
import BackendMonitor.Proofs.Poller.Rehearsal
import BackendMonitor.Proofs.Poller.Cancelling
import BackendMonitor.Proofs.Poller.Reported
import BackendMonitor.Proofs.Poller.Teardown
import BackendMonitor.Proofs.Connection.Teardown
import BackendMonitor.Proofs.Connection.Stall
import BackendMonitor.Proofs.Client.JobStatus
import BackendMonitor.Proofs.Poller.CancelRequests
import BackendMonitor.Proofs.Poller.Notices
import BackendMonitor.Proofs.Poller.Timetable
import BackendMonitor.Proofs.Connection.Messages
import BackendMonitor.Proofs.Debounce.Clock
import BackendMonitor.Proofs.Debounce.Teardown
import BackendMonitor.Proofs.Debounce.Latest
import BackendMonitor.Proofs.Preview.Run
import BackendMonitor.Proofs.Settings.Validation
import BackendMonitor.Proofs.Preview.Settled
import BackendMonitor.Proofs.Preview.Last
import BackendMonitor.Proofs.Job.FirstEnd
import BackendMonitor.Proofs.Client.JobAddress
import BackendMonitor.Proofs.Scan.Outcome
import BackendMonitor.Proofs.Poller.Waiting
import BackendMonitor.Proofs.Client.Refusal
import BackendMonitor.Proofs.Json.Grammar
import BackendMonitor.Proofs.Json.Lexing
import BackendMonitor.Proofs.Json.Skipping
import BackendMonitor.Proofs.Json.Kinds
import BackendMonitor.Proofs.Json.Overlay
import BackendMonitor.Proofs.Json.Writing
import BackendMonitor.Proofs.Settings.Overlay
import BackendMonitor.Proofs.Settings.RoundTrip
import BackendMonitor.Proofs.Event.Activity
import BackendMonitor.Proofs.Event.Envelope
import BackendMonitor.Proofs.Poller.Epochs
