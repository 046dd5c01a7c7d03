import ResumableSession.Frame.Buffer
import ResumableSession.Message.Codec
import ResumableSession.Outbox

/-!
The client side of a session, without its connection.

A session outlives its connections.  It remembers what the other side has not dealt with yet and
how far it has got with what comes from there.  Whatever happens to it is an `Input`, and what
should be done about it is a list of `Effect`s, to be carried out in their order.
-/

namespace ResumableSession

/-! ## What can go wrong -/

inductive TransportError where
  | closed (code : Nat)
  | errored
  deriving DecidableEq, Repr

def TransportError.message : TransportError → String
  | .closed code => s!"Transport closed (code {code})"
  | .errored => "Transport error"

inductive DecodeError where
  | framing (error : Frame.Error)
  | envelope (error : EnvelopeError)
  deriving DecidableEq, Repr

def DecodeError.message : DecodeError → String
  | .framing error => error.message
  | .envelope error => error.message

inductive SessionError where
  | transport (cause : TransportError)
  | undecodable (error : DecodeError)
  | rejected
  | outOfOrder (expected received : Nat)
  deriving DecidableEq, Repr

namespace SessionError

def message : SessionError → String
  | .transport cause => cause.message
  | .undecodable error => s!"Protocol decode error: {error.message}"
  | .rejected => "Session rejected by remote"
  | .outOfOrder expected received =>
      s!"Expected response id {expected}, got {received}. Ignoring"

def recoverable : SessionError → Bool
  | .transport _ | .outOfOrder _ _ => true
  | .undecodable _ | .rejected => false

end SessionError

/-! ## The state -/

inductive Status where
  | disconnected
  | awaitingConnect
  | connected
  | attached
  | rejected
  deriving DecidableEq, Repr

def Status.name : Status → String
  | .disconnected => "Disconnected"
  | .awaitingConnect => "AwaitingConnect"
  | .connected => "Connected"
  | .attached => "AttachedToSession"
  | .rejected => "SessionFailure"

/-- Delays are in milliseconds. -/
structure Session.Config where
  initialRequestId : Nat := 1000
  reconnectDelay : Nat := 5000
  authToken : Option String := none
  deriving DecidableEq, Repr

structure Session where
  config : Session.Config
  status : Status := .disconnected
  /-- The bytes of the present connection. -/
  buffer : Frame.Buffer := .empty
  sessionId : Option String := none
  profile : Option Profile := none
  nextRequestId : Nat
  /-- The response that is accepted next. -/
  responseCursor : Nat := 0
  outbox : Outbox Request := .empty
  /-- How often a connection was asked for. -/
  attempts : Nat := 0
  deriving DecidableEq, Repr

namespace Session

def new (config : Config) : Session :=
  { config, nextRequestId := config.initialRequestId }

end Session

def ClientMessage.frame (message : ClientMessage) : String :=
  Frame.wrap message.encode

/-! ## Inputs and effects -/

inductive Input where
  | start
  | connect
  | opened
  | lost (cause : TransportError)
  | received (fragment : List UInt8)
  | request (payload : Json)
  deriving DecidableEq, Repr

inductive Effect where
  | openTransport
  | closeTransport
  | send (message : ClientMessage)
  | scheduleReconnect (delay : Nat)
  | stateChanged (status : Status)
  | deliver (payload : Json)
  | report (error : SessionError)
  deriving DecidableEq, Repr

end ResumableSession
