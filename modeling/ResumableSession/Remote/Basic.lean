import ResumableSession.Message.Basic
import ResumableSession.Outbox
import ResumableSession.Table

/-!
The other side of sessions.

A channel is one connection, and a session is a conversation that goes on over several of them.
At any time a session is bound to one channel at most.  A channel that lost its session to
another one, or whose session was dropped, is retired: nothing on it counts any more.
-/

namespace ResumableSession

structure Channel where
  /-- Who is at the other end, once that was said. -/
  profile : Option Profile := none
  sessionId : Option String := none
  retired : Bool := false
  deriving DecidableEq, Repr

structure RemoteSession where
  profile : Profile
  channel : Option Nat
  /-- The request that is accepted next. -/
  requestCursor : Nat := 1000
  nextResponseId : Nat := 0
  outbox : Outbox Response := .empty
  deriving DecidableEq, Repr

structure Remote where
  /-- What the names of all sessions begin with. -/
  stem : String
  /-- How many sessions were created. -/
  serial : Nat := 0
  /-- The channel that was opened last. -/
  lastChannel : Nat := 0
  channels : Table Nat Channel := []
  sessions : Table String RemoteSession := []
  deriving DecidableEq, Repr

inductive Action where
  | send (channel : Nat) (message : ServerMessage)
  | deliver (sessionId : String) (requestId : Nat) (payload : Json)
  | shutdown (channel : Nat)
  deriving DecidableEq, Repr

inductive RemoteError where
  | unknownChannel (channel : Nat)
  | duplicateHello
  | missingHello
  | unexpectedMessage (tag : String)
  | unknownSession (sessionId : String)
  deriving DecidableEq, Repr

def RemoteError.message : RemoteError → String
  | .unknownChannel channel => s!"Unknown channel {channel}"
  | .duplicateHello => "Received duplicate Hello message"
  | .missingHello => "Session operation before Hello was received"
  | .unexpectedMessage tag => s!"Unexpected message {tag}"
  | .unknownSession sessionId => s!"Unknown session {sessionId}"

namespace Remote

def new (stem : String) : Remote := { stem }

def channel? (channel : Nat) (r : Remote) : Option Channel :=
  Table.find? channel r.channels

def session? (sessionId : String) (r : Remote) : Option RemoteSession :=
  Table.find? sessionId r.sessions

def modifyChannel (channel : Nat) (change : Channel → Channel) (r : Remote) : Remote :=
  { r with channels := Table.modify channel change r.channels }

def modifySession (sessionId : String) (change : RemoteSession → RemoteSession) (r : Remote) :
    Remote :=
  { r with sessions := Table.modify sessionId change r.sessions }

/-! ## What can be asked -/

def requestCursor? (sessionId : String) (r : Remote) : Option Nat :=
  (r.session? sessionId).map (·.requestCursor)

def pendingResponses? (sessionId : String) (r : Remote) : Option Nat :=
  (r.session? sessionId).map (·.outbox.length)

def channelOf? (sessionId : String) (r : Remote) : Option Nat :=
  (r.session? sessionId).bind (·.channel)

end Remote

end ResumableSession
