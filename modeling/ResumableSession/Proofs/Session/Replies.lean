import ResumableSession.Proofs.Session.Moments

/-!
What a single moment can come to.

A turn is a moment together with the session that it found, so everything that was done in it can be
told from it.  `Reply` lists once and for all what a turn can come to: the message that was dealt
with, the session afterwards, field by field, and the effects.  It is exact.  What is said about
turns is shown by cases of it, and no such proof looks into a session again.
-/

namespace ResumableSession

inductive Ending where
  | lost (cause : TransportError)
  | undecodable (error : DecodeError)
  | rejected
  deriving DecidableEq, Repr

namespace Ending

def status : Ending → Status
  | .lost _ | .undecodable _ => .disconnected
  | .rejected => .rejected

def effects (delay : Nat) : Ending → List Effect
  | .lost cause =>
      [.report (.transport cause), .closeTransport, .stateChanged .disconnected,
        .scheduleReconnect delay]
  | .undecodable error =>
      [.report (.undecodable error), .closeTransport, .stateChanged .disconnected,
        .scheduleReconnect delay]
  | .rejected => [.stateChanged .rejected, .report .rejected, .closeTransport]

end Ending

def ServerMessage.welcome? : ServerMessage → Option String
  | .success sessionId _ _ => some sessionId
  | .failure | .response _ => none

namespace Session

structure Turn where
  before : Session
  moment : Moment

namespace Turn

def after (t : Turn) : Session :=
  (t.before.meet t.moment).1

def effects (t : Turn) : List Effect :=
  (t.before.meet t.moment).2

/-- The message that the session dealt with.  There is none in a line that cannot be read, and a
session that is not live deals with no message. -/
def heard? (t : Turn) : Option ServerMessage :=
  match t.moment with
  | .line line => if t.before.status.live then (readLine line).toOption else none
  | .connect | .opened | .lost _ | .request _ => none

def asked? (t : Turn) : Option Request :=
  match t.moment with
  | .request payload => some ⟨t.before.nextRequestId, t.before.responseCursor, payload⟩
  | .connect | .opened | .lost _ | .line _ => none

def welcome? (t : Turn) : Option String :=
  t.heard?.bind ServerMessage.welcome?

end Turn

variable {s after : Session} {moment : Moment} {heard : Option ServerMessage}
  {effects : List Effect}

/-! ## What is done -/

theorem connect_of_disconnected (hdown : s.status = .disconnected) :
    s.connect =
      ({ s with status := .awaitingConnect, attempts := s.attempts + 1, buffer := .empty },
        [.stateChanged .awaitingConnect, .openTransport]) := by
  simp [connect, enter, hdown]

theorem opened_of_waiting (hwaiting : s.status = .awaitingConnect) :
    s.opened =
      ({ s with status := .connected },
        ((s.config.authToken.map ClientMessage.auth).toList ++ [s.opener]).map .send ++
          [.stateChanged .connected]) := by
  simp [opened, enter, hwaiting]

theorem dropConnection_of_live (hlive : s.status.live) (cause : SessionError) :
    s.dropConnection cause =
      ({ s with status := .disconnected },
        [.report cause] ++ .closeTransport ::
          [.stateChanged .disconnected, .scheduleReconnect s.config.reconnectDelay]) := by
  have hstatus : s.status ≠ .disconnected := by
    intro hdown
    simp [hdown, Status.live] at hlive
  simp [dropConnection, enter, hstatus]

theorem succeeded_eq (sessionId : String) (requestCursor : Nat) (profile : Profile)
    (s : Session) :
    s.succeeded sessionId requestCursor profile =
      ({ s with
          status := .attached, sessionId := some sessionId, profile := some profile
          outbox := s.outbox.dropBelow requestCursor },
        (s.outbox.dropBelow requestCursor).entries.map (fun entry => .send (.request entry)) ++
          if s.status = .attached then [] else [.stateChanged .attached]) := by
  by_cases hattached : s.status = .attached
  · simp [succeeded, enter, hattached]
  · simp [succeeded, enter, hattached]

theorem refused_of_live (hlive : s.status.live) :
    s.refused =
      ({ s with status := .rejected },
        [.stateChanged .rejected, .report .rejected] ++ .closeTransport :: []) := by
  have hstatus : s.status ≠ .rejected := by
    intro hdown
    simp [hdown, Status.live] at hlive
  simp [refused, enter, hstatus]

/-! ## What it comes to -/

def greeting (s : Session) : List ClientMessage :=
  (s.config.authToken.map ClientMessage.auth).toList ++ [s.opener]

inductive Reply (s : Session) : Moment → Option ServerMessage → Session → List Effect → Prop where
  | ignored {moment : Moment} (unasked : ∀ payload, moment ≠ .request payload) :
      Reply s moment none s []
  | connects (down : s.status = .disconnected) :
      Reply s .connect none
        { s with status := .awaitingConnect, attempts := s.attempts + 1, buffer := .empty }
        [.stateChanged .awaitingConnect, .openTransport]
  | opens (waiting : s.status = .awaitingConnect) :
      Reply s .opened none { s with status := .connected }
        (s.greeting.map .send ++ [.stateChanged .connected])
  | asks (payload : Json) :
      Reply s (.request payload) none
        { s with
          nextRequestId := s.nextRequestId + 1
          outbox := s.outbox.push ⟨s.nextRequestId, s.responseCursor, payload⟩ }
        (if s.status = .attached then
          [.send (.request ⟨s.nextRequestId, s.responseCursor, payload⟩)] else [])
  | ends {moment : Moment} (live : s.status.live) (unasked : ∀ payload, moment ≠ .request payload)
      (ending : Ending) (retried : ending.status = .disconnected) :
      Reply s moment none { s with status := .disconnected }
        (ending.effects s.config.reconnectDelay)
  | succeeds (line : Except Frame.Error String) (live : s.status.live) (sessionId : String)
      (requestCursor : Nat) (profile : Profile) :
      Reply s (.line line) (some (.success sessionId requestCursor profile))
        { s with
          status := .attached, sessionId := some sessionId, profile := some profile
          outbox := s.outbox.dropBelow requestCursor }
        ((s.outbox.dropBelow requestCursor).entries.map (fun entry => .send (.request entry)) ++
          if s.status = .attached then [] else [.stateChanged .attached])
  | fails (line : Except Frame.Error String) (live : s.status.live) :
      Reply s (.line line) (some .failure) { s with status := .rejected }
        (Ending.rejected.effects s.config.reconnectDelay)
  | accepts (line : Except Frame.Error String) (live : s.status.live) (response : Response)
      (isNext : response.id = s.responseCursor) :
      Reply s (.line line) (some (.response response))
        { s with
          responseCursor := s.responseCursor + 1
          outbox := s.outbox.dropBelow response.requestCursor }
        [.deliver response.payload]
  | passesOver (line : Except Frame.Error String) (live : s.status.live) (response : Response)
      (isOther : response.id ≠ s.responseCursor) :
      Reply s (.line line) (some (.response response)) s
        [.report (.outOfOrder s.responseCursor response.id)]

theorem reply_handle (hlive : s.status.live) (line : Except Frame.Error String)
    (message : ServerMessage) :
    Reply s (.line line) (some message) (s.handle message).1 (s.handle message).2 := by
  cases message with
  | success sessionId requestCursor profile =>
      rw [handle, succeeded_eq]
      exact .succeeds line hlive sessionId requestCursor profile
  | failure =>
      rw [handle, refused_of_live hlive]
      exact .fails line hlive
  | response response =>
      by_cases hid : response.id = s.responseCursor
      · simpa [handle, responded, hid] using Reply.accepts line hlive response hid
      · simpa [handle, responded, hid] using Reply.passesOver line hlive response hid

theorem reply_line (line : Except Frame.Error String) (s : Session) :
    Reply s (.line line) (Turn.heard? ⟨s, .line line⟩) (s.meet (.line line)).1
      (s.meet (.line line)).2 := by
  by_cases hlive : s.status.live
  · simp only [Turn.heard?, meet, takeLine, if_pos hlive]
    cases hread : readLine line with
    | error error =>
        simp only [dropConnection_of_live hlive]
        exact .ends hlive (by simp) (.undecodable error) rfl
    | ok message => exact reply_handle hlive line message
  · simp only [Turn.heard?, meet, if_neg hlive]
    exact .ignored (by simp)

theorem Turn.reply (t : Turn) : Reply t.before t.moment t.heard? t.after t.effects := by
  obtain ⟨s, moment⟩ := t
  simp only [Turn.after, Turn.effects]
  cases moment with
  | connect =>
      by_cases hdown : s.status = .disconnected
      · rw [meet, connect_of_disconnected hdown]
        exact .connects hdown
      · have hmeet : s.meet .connect = (s, []) := if_neg hdown
        rw [hmeet]
        exact .ignored (by simp)
  | opened =>
      by_cases hwaiting : s.status = .awaitingConnect
      · rw [meet, opened_of_waiting hwaiting]
        exact .opens hwaiting
      · have hmeet : s.meet .opened = (s, []) := if_neg hwaiting
        rw [hmeet]
        exact .ignored (by simp)
  | lost cause =>
      by_cases hlive : s.status.live
      · have hlost : s.lost cause = s.dropConnection (.transport cause) := by
          unfold lost
          split <;> simp_all [Status.live]
        rw [meet, hlost, dropConnection_of_live hlive]
        exact .ends hlive (by simp) (.lost cause) rfl
      · have hlost : s.lost cause = (s, []) := by
          unfold lost
          split <;> simp_all [Status.live]
        rw [meet, hlost]
        exact .ignored (by simp)
  | line line => exact reply_line line s
  | request payload => exact .asks payload

end Session

end ResumableSession
