import ResumableSession.Session.Basic

/-!
How a session answers its inputs.

A connection starts with an opener, which creates a session or resumes the one there was.  The
answer to it says which requests have arrived, and all others are sent again, before anyone is
told that the session is attached.  A response is accepted only if it is the next one.
-/

namespace ResumableSession.Session

/-- Enters a status and tells so, unless it is the present one. -/
def enter (status : Status) (s : Session) : Session × List Effect :=
  if s.status = status then (s, []) else ({ s with status }, [.stateChanged status])

/-! ## Connections -/

def connect (s : Session) : Session × List Effect :=
  if s.status = .disconnected then
    let (s, effects) :=
      enter .awaitingConnect { s with attempts := s.attempts + 1, buffer := .empty }
    (s, effects ++ [.openTransport])
  else (s, [])

def start (s : Session) : Session × List Effect :=
  s.connect

def opener (s : Session) : ClientMessage :=
  match s.sessionId with
  | none => .createSession
  | some id => .attach id s.responseCursor

def opened (s : Session) : Session × List Effect :=
  if s.status = .awaitingConnect then
    let auth := (s.config.authToken.map ClientMessage.auth).toList
    let (after, effects) := enter .connected s
    (after, (auth ++ [s.opener]).map .send ++ effects)
  else (s, [])

/-- Gives the connection up.  All that makes up the session stays. -/
def dropConnection (cause : SessionError) (s : Session) : Session × List Effect :=
  let (after, effects) := enter .disconnected s
  (after,
    [.report cause, .closeTransport] ++ effects ++ [.scheduleReconnect s.config.reconnectDelay])

def lost (cause : TransportError) (s : Session) : Session × List Effect :=
  match s.status with
  | .disconnected | .rejected => (s, [])
  | .awaitingConnect | .connected | .attached => s.dropConnection (.transport cause)

/-! ## Messages -/

def succeeded (sessionId : String) (requestCursor : Nat) (profile : Profile) (s : Session) :
    Session × List Effect :=
  let outbox := s.outbox.dropBelow requestCursor
  let (after, effects) :=
    enter .attached { s with sessionId := some sessionId, profile := some profile, outbox }
  (after, (outbox.entries.map fun entry => .send (.request entry)) ++ effects)

def refused (s : Session) : Session × List Effect :=
  let (after, effects) := enter .rejected s
  (after, effects ++ [.report .rejected, .closeTransport])

def responded (response : Response) (s : Session) : Session × List Effect :=
  if response.id = s.responseCursor then
    ({ s with
        responseCursor := s.responseCursor + 1
        outbox := s.outbox.dropBelow response.requestCursor },
      [.deliver response.payload])
  else (s, [.report (.outOfOrder s.responseCursor response.id)])

def handle (message : ServerMessage) (s : Session) : Session × List Effect :=
  match message with
  | .success sessionId requestCursor profile => s.succeeded sessionId requestCursor profile
  | .failure => s.refused
  | .response response => s.responded response

def readLine (line : Except Frame.Error String) : Except DecodeError ServerMessage :=
  match line with
  | .error error => .error (.framing error)
  | .ok text => (ServerMessage.decode text).mapError .envelope

theorem handle_buffer (message : ServerMessage) (s : Session) :
    (s.handle message).1.buffer = s.buffer := by
  have enter_buffer (status : Status) (s : Session) : (enter status s).1.buffer = s.buffer := by
    unfold enter
    split <;> rfl
  cases message with
  | success sessionId requestCursor profile => exact enter_buffer _ _
  | failure => exact enter_buffer _ _
  | response response =>
      simp only [handle, responded]
      split <;> rfl

/-- Deals with the messages in the buffer until there are no more, or until one of them ends the
connection.  What comes after that one is left where it is. -/
def consume (s : Session) : Session × List Effect :=
  match _ : s.buffer.next with
  | (none, buffer) => ({ s with buffer }, [])
  | (some line, buffer) =>
      match readLine line with
      | .error error => { s with buffer }.dropConnection (.undecodable error)
      | .ok message =>
          let handled := { s with buffer }.handle message
          if handled.1.status = .rejected then handled
          else
            let later := handled.1.consume
            (later.1, handled.2 ++ later.2)
  termination_by s.buffer.unscanned
  decreasing_by
    rw [handle_buffer]
    exact Frame.Buffer.unscanned_next_lt ‹_›

section

variable {s : Session} {buffer : Frame.Buffer} {line : Except Frame.Error String}

theorem consume_none (h : s.buffer.next = (none, buffer)) :
    s.consume = ({ s with buffer }, []) := by
  rw [consume]
  split
  · next rest hnext =>
      obtain ⟨-, rfl⟩ := Prod.mk.inj (hnext.symm.trans h)
      rfl
  · next hnext =>
      simp [h] at hnext

theorem consume_some (h : s.buffer.next = (some line, buffer)) :
    s.consume =
      match readLine line with
      | .error error => { s with buffer }.dropConnection (.undecodable error)
      | .ok message =>
          let handled := { s with buffer }.handle message
          if handled.1.status = .rejected then handled
          else (handled.1.consume.1, handled.2 ++ handled.1.consume.2) := by
  rw [consume]
  split
  · next hnext =>
      simp [h] at hnext
  · next hnext =>
      obtain ⟨hline, rfl⟩ := Prod.mk.inj (hnext.symm.trans h)
      obtain rfl := Option.some.inj hline
      rfl

end

def received (fragment : List UInt8) (s : Session) : Session × List Effect :=
  match s.status with
  | .disconnected | .rejected => (s, [])
  | .awaitingConnect | .connected | .attached =>
      { s with buffer := s.buffer.push fragment }.consume

/-! ## Requests -/

/-- Numbers a payload and keeps it.  It is sent at once only when the session is attached. -/
def request (payload : Json) (s : Session) : Session × List Effect :=
  let entry : Request := ⟨s.nextRequestId, s.responseCursor, payload⟩
  ({ s with nextRequestId := s.nextRequestId + 1, outbox := s.outbox.push entry },
    if s.status = .attached then [.send (.request entry)] else [])

def step (input : Input) (s : Session) : Session × List Effect :=
  match input with
  | .start => s.start
  | .connect => s.connect
  | .opened => s.opened
  | .lost cause => s.lost cause
  | .received fragment => s.received fragment
  | .request payload => s.request payload

end ResumableSession.Session
