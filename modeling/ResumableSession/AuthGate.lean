import ResumableSession.Session.Basic

/-!
The gate in front of a session.

It reads the messages of a new connection until one of them tells a token.  Whatever follows that
message is left unread, for the reader that takes over.
-/

namespace ResumableSession

inductive HandshakeError where
  | undecodable (error : DecodeError)
  | expectedAuth (tag : String)
  deriving DecidableEq, Repr

def HandshakeError.message : HandshakeError → String
  | .undecodable error => s!"Handshake decode error: {error.message}"
  | .expectedAuth tag => s!"Expected first message to be an Auth message, got {tag}"

structure AuthGate where
  buffer : Frame.Buffer := .empty
  token : Option String := none
  deriving DecidableEq, Repr

namespace AuthGate

def new : AuthGate := {}

def isAuthenticated (g : AuthGate) : Bool :=
  g.token.isSome

def readToken (line : Except Frame.Error String) : Except HandshakeError String :=
  match line with
  | .error error => .error (.undecodable (.framing error))
  | .ok text =>
      match ClientMessage.decode text with
      | .error error => .error (.undecodable (.envelope error))
      | .ok (.auth token) => .ok token
      | .ok message => .error (.expectedAuth message.tag)

/--
Adds a fragment.  Without a token yet, one message is read, if one is finished.  The answer is
the token if it came just now.
-/
def push (g : AuthGate) (fragment : List UInt8) :
    Except HandshakeError (Option String) × AuthGate :=
  let buffer := g.buffer.push fragment
  if g.isAuthenticated then (.ok none, { g with buffer })
  else
    match buffer.next with
    | (none, buffer) => (.ok none, { g with buffer })
    | (some line, buffer) =>
        match readToken line with
        | .error error => (.error error, { g with buffer })
        | .ok token => (.ok (some token), { buffer, token := some token })

def residual (g : AuthGate) : List UInt8 :=
  g.buffer.residual

end AuthGate

end ResumableSession
