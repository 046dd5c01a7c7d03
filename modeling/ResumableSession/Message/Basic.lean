import ResumableSession.Json.Basic

/-!
The messages of the session protocol.

Some of them open or resume a session.  The others carry the payloads of the application, which
the protocol does not look into, together with the numbers that make delivery reliable: the
place of the payload in its stream, and how far its sender has got with the stream of the other
side.
-/

namespace ResumableSession

structure Profile where
  userId : String
  signature : String
  deriving DecidableEq, Repr

/-- A payload from the client.  `responseCursor` is the first response it still waits for. -/
structure Request where
  id : Nat
  responseCursor : Nat
  payload : Json
  deriving DecidableEq, Repr

/-- A payload for the client.  `requestCursor` is the first request not yet dealt with. -/
structure Response where
  id : Nat
  requestCursor : Nat
  payload : Json
  deriving DecidableEq, Repr

inductive ClientMessage where
  | auth (token : String)
  | hello (profile : Profile)
  | createSession
  | attach (sessionId : String) (responseCursor : Nat)
  | request (request : Request)
  deriving DecidableEq, Repr

inductive ServerMessage where
  | success (sessionId : String) (requestCursor : Nat) (profile : Profile)
  | failure
  | response (response : Response)
  deriving DecidableEq, Repr

def ClientMessage.tag : ClientMessage → String
  | .auth _ => "Auth"
  | .hello _ => "Hello"
  | .createSession => "CreateSession"
  | .attach _ _ => "AttachToSession"
  | .request _ => "PackagedRequest"

def ServerMessage.tag : ServerMessage → String
  | .success _ _ _ => "SessionSuccess"
  | .failure => "SessionFailure"
  | .response _ => "PackagedResponse"

end ResumableSession
