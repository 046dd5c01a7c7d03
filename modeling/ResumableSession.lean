import ResumableSession.AuthGate
import ResumableSession.Client.Shell
import ResumableSession.Client.Step
import ResumableSession.Decimal.Layout
import ResumableSession.Decimal.Shortest
import ResumableSession.Dispatch.Basic
import ResumableSession.Dispatch.Notice
import ResumableSession.Dispatch.Reaction
import ResumableSession.Dispatch.Rehearsal
import ResumableSession.Dispatch.Step
import ResumableSession.Frame.Buffer
import ResumableSession.Json.Basic
import ResumableSession.Json.NumberReader
import ResumableSession.Json.Parsed
import ResumableSession.Json.Printer
import ResumableSession.Json.Reader
import ResumableSession.Json.StringReader
import ResumableSession.Json.SyntaxError
import ResumableSession.Message.Basic
import ResumableSession.Message.Codec
import ResumableSession.Message.Envelope
import ResumableSession.Outbox
import ResumableSession.Page
import ResumableSession.Proofs.AuthGate.Admission
import ResumableSession.Proofs.AuthGate.Handoff
import ResumableSession.Proofs.Client.Audience
import ResumableSession.Proofs.Client.Callbacks
import ResumableSession.Proofs.Client.Fixtures
import ResumableSession.Proofs.Client.Life
import ResumableSession.Proofs.Client.OneSocket
import ResumableSession.Proofs.Client.OwnConnection
import ResumableSession.Proofs.Client.Reconnect
import ResumableSession.Proofs.Client.Sockets
import ResumableSession.Proofs.Client.Throws
import ResumableSession.Proofs.Dispatch.Ending
import ResumableSession.Proofs.Dispatch.Fifo
import ResumableSession.Proofs.Dispatch.Generations
import ResumableSession.Proofs.Dispatch.Likeness
import ResumableSession.Proofs.Dispatch.Rest
import ResumableSession.Proofs.Dispatch.Sends
import ResumableSession.Proofs.Dispatch.Steps
import ResumableSession.Proofs.Dispatch.Views
import ResumableSession.Proofs.Dispatch.Wire
import ResumableSession.Proofs.Frame.Line
import ResumableSession.Proofs.Frame.Operations
import ResumableSession.Proofs.Frame.Queue
import ResumableSession.Proofs.Frame.Search
import ResumableSession.Proofs.Json.Accepted
import ResumableSession.Proofs.Json.Numerals
import ResumableSession.Proofs.Json.Outcome
import ResumableSession.Proofs.Json.Printing
import ResumableSession.Proofs.Json.RoundTrip
import ResumableSession.Proofs.Json.Strings
import ResumableSession.Proofs.Json.Values
import ResumableSession.Proofs.Message.Canonical
import ResumableSession.Proofs.Message.Framing
import ResumableSession.Proofs.Message.RoundTrip
import ResumableSession.Proofs.Message.Transcription
import ResumableSession.Proofs.Network.Arrival
import ResumableSession.Proofs.Network.Basic
import ResumableSession.Proofs.Network.Client
import ResumableSession.Proofs.Network.Delivery
import ResumableSession.Proofs.Network.Invariant
import ResumableSession.Proofs.Network.Remote
import ResumableSession.Proofs.Network.Response
import ResumableSession.Proofs.Outbox.Ascending
import ResumableSession.Proofs.Outbox.Consecutive
import ResumableSession.Proofs.Remote.Admission
import ResumableSession.Proofs.Remote.Binding
import ResumableSession.Proofs.Remote.Finality
import ResumableSession.Proofs.Remote.Handling
import ResumableSession.Proofs.Remote.History
import ResumableSession.Proofs.Remote.Independence
import ResumableSession.Proofs.Remote.Isolation
import ResumableSession.Proofs.Remote.Outcomes
import ResumableSession.Proofs.Remote.Refusals
import ResumableSession.Proofs.Remote.Responses
import ResumableSession.Proofs.Remote.Soundness
import ResumableSession.Proofs.Session.Alternation
import ResumableSession.Proofs.Session.CatchUp
import ResumableSession.Proofs.Session.Changes
import ResumableSession.Proofs.Session.Deliveries
import ResumableSession.Proofs.Session.Fragments
import ResumableSession.Proofs.Session.Frame
import ResumableSession.Proofs.Session.Graph
import ResumableSession.Proofs.Session.Moments
import ResumableSession.Proofs.Session.Openers
import ResumableSession.Proofs.Session.Outcomes
import ResumableSession.Proofs.Session.Payloads
import ResumableSession.Proofs.Session.Pending
import ResumableSession.Proofs.Session.Replies
import ResumableSession.Proofs.Session.Segments
import ResumableSession.Proofs.Session.Steps
import ResumableSession.Proofs.Session.Tellings
import ResumableSession.Proofs.Session.Turns
import ResumableSession.Proofs.Session.Welcomes
import ResumableSession.Proofs.Text.LongestValid
import ResumableSession.Proofs.Text.Utf8
import ResumableSession.Remote.Basic
import ResumableSession.Remote.Step
import ResumableSession.Session.Basic
import ResumableSession.Session.Payload
import ResumableSession.Session.Stats
import ResumableSession.Session.Step
import ResumableSession.Table
import ResumableSession.Text.Printable
import ResumableSession.Text.Quoted
import ResumableSession.Text.Utf8
