import ResumableSession.Session.Basic

/-!
What a session shows of itself.
-/

namespace ResumableSession.Session

def stats (s : Session) : String :=
  Json.render <| .object
    [("state", .string s.status.name),
      ("sessionId", (s.sessionId.map Json.string).getD .null),
      ("nextRequestId", .ofNat s.nextRequestId),
      ("responseCursor", .ofNat s.responseCursor),
      ("pendingRequests", .ofNat s.outbox.length),
      ("connectAttempts", .ofNat s.attempts)]

def profileText (s : Session) : Option String :=
  s.profile.map fun profile => profile.record.render

structure Overview where
  status : Status
  pending : Nat
  sessionId : Option String
  profile : Option String
  stats : String
  deriving DecidableEq, Repr

def overview (s : Session) : Overview :=
  ⟨s.status, s.outbox.length, s.sessionId, s.profileText, s.stats⟩

end ResumableSession.Session
