import ResumableSession.Dispatch.Reaction
import ResumableSession.Dispatch.Step
import ResumableSession.Page
import ResumableSession.Session.Payload

/-!
What a client on a page puts around its session.

The shell is the host of the session.  It keeps one connection at most, a socket of the page
together with its handlers.  A connection that was closed stays in its place until another one is
opened, and then it is closed once more; until then its handlers may still be running.

Status changes and responses go to the callbacks of the application.  A callback may call the
client again, and it may throw.
-/

namespace ResumableSession

/-! ## Payloads of the application -/

/-- A value offered as a payload, by what writing it as JSON comes to. -/
inductive OfferedValue where
  | text (json : String)
  | throws (thrown : String)
  | undefined
  deriving DecidableEq, Repr

inductive OfferError where
  | notSerializable (thrown : Option String)
  | notJson (error : PayloadError)
  deriving DecidableEq, Repr

def OfferError.message : OfferError → String
  | .notSerializable none => "Payload is not JSON-serializable"
  | .notSerializable (some thrown) =>
      s!"Payload is not JSON-serializable: {describeThrown thrown}"
  | .notJson error => error.message

def OfferedValue.input : OfferedValue → Except OfferError Input
  | .text json => (Input.ofPayloadText json).mapError .notJson
  | .throws thrown => .error (.notSerializable (some thrown))
  | .undefined => .error (.notSerializable none)

/-! ## Connections -/

structure Transport where
  socket : Nat
  generation : Nat
  deriving DecidableEq, Repr

inductive Slot where
  | vacant
  | current (transport : Transport)
  | retired (transport : Transport)
  deriving DecidableEq, Repr

inductive CallbackStep where
  | start
  | send (value : OfferedValue)
  | look
  deriving DecidableEq, Repr

structure Shell where
  page : Page
  url : String
  slot : Slot := .vacant
  /-- The generation of the last attempt to open a connection. -/
  generation : Nat := 0
  /-- How often callbacks were registered.  Only the last ones are called. -/
  registrations : Nat := 0
  reactions : List (Reaction CallbackStep) := []
  /-- What is left to do of the present callback. -/
  script : List CallbackStep := []
  /-- What the present callback throws in the end. -/
  throwing : Option String := none

namespace Shell

def current? (s : Shell) : Option Transport :=
  match s.slot with
  | .current transport => some transport
  | .vacant | .retired _ => none

def record (entry : Page.Entry) (s : Shell) : Shell :=
  { s with page := s.page.record entry }

def write (record : LogRecord) (s : Shell) : Shell :=
  { s with page := s.page.write record }

def complain (level : LogLevel) (what : String) (thrown : Option String) (s : Shell) : Shell :=
  match thrown with
  | none => s
  | some text => s.write { level, message := s!"{what}: {describeThrown text}" }

def shutdown (transport : Transport) (s : Shell) : Shell :=
  let (thrown, page) := (s.page.setHandlers transport.socket false).close transport.socket
  { s with page }.complain .warn "WebSocket close failed" thrown

/-- Empties the slot.  What was in it is shut down, also if it was before. -/
def release (s : Shell) : Shell :=
  match s.slot with
  | .vacant => s
  | .current transport | .retired transport => { s.shutdown transport with slot := .vacant }

def openTransport (s : Shell) : Option String × Shell :=
  let generation := s.generation + 1
  let s := { s.release with generation }
  match s.page.openSocket s.url generation with
  | (.error thrown, page) => (some (describeThrown thrown), { s with page })
  | (.ok socket, page) =>
      let page := (page.setBinaryType socket).setHandlers socket true
      (none,
        { s with page, slot := .current ⟨socket, generation⟩ }.write
          ⟨.debug, "WebSocket opening", [s!"generation={generation}", s!"url={s.url}"]⟩)

def closeTransport (s : Shell) : Shell :=
  match s.slot with
  | .current transport => { s.shutdown transport with slot := .retired transport }
  | .vacant | .retired _ => s

def send (text : String) (s : Shell) : Shell :=
  match s.slot with
  | .current transport =>
      let (thrown, page) := s.page.send transport.socket text
      { s with page }.complain .warn "WebSocket send failed" thrown
  | .vacant | .retired _ =>
      s.write { level := .warn, message := "Dropping send with no transport" }

/-- No timer of a page can wait for longer. -/
def longestDelay : Nat := 0x7fffffff

def scheduleReconnect (delay : Nat) (s : Shell) : Shell :=
  if s.page.hasWindow then
    let (thrown, page) := s.page.setTimer (min delay longestDelay)
    { s with page }.complain .error "setTimeout failed" thrown
  else s.write { level := .error, message := "No window; cannot schedule reconnect" }

/-! ## Callbacks -/

def giveCue (cue : String) (s : Shell) : Shell :=
  let (reaction, reactions) := Reaction.take cue s.reactions
  { s with
    reactions
    script := Reaction.stepsOf reaction
    throwing := reaction.bind Reaction.throws }

def stateChanged (status : Status) (s : Shell) : Shell :=
  if s.registrations = 0 then s
  else (s.record (.state s.registrations status)).giveCue status.name

def deliver (payload : Json) (s : Shell) : Shell :=
  if s.registrations = 0 then s
  else (s.record (.delivered s.registrations payload.render)).giveCue "deliver"

def register (s : Shell) : Shell :=
  { s with registrations := s.registrations + 1 }

def runScript (session : Session) (script : List CallbackStep) (s : Shell) :
    Option Call × Shell :=
  match script with
  | [] => (none, { s with script := [] })
  | .start :: rest => (some (.submit .start), { s.register with script := rest })
  | .send value :: rest =>
      match value.input with
      | .ok input => (some (.submit input), { s with script := rest })
      | .error error => runScript session rest (s.record (.failed error.message))
  | .look :: rest => runScript session rest (s.record (.looked session.overview))

def callbackName : HostCall → String
  | .deliver _ => "onResponse"
  | _ => "onStateChange"

def leave (call : HostCall) (s : Shell) : Shell :=
  { s with throwing := none }.complain .error (callbackName call ++ " threw") s.throwing

/-! ## The host -/

def enter (call : HostCall) (s : Shell) : Option String × Shell :=
  match call with
  | .openTransport => s.openTransport
  | .closeTransport => (none, s.closeTransport)
  | .send text => (none, s.send text)
  | .scheduleReconnect delay => (none, s.scheduleReconnect delay)
  | .stateChanged status => (none, s.stateChanged status)
  | .deliver payload => (none, s.deliver payload)

def credit (s : Shell) : Nat :=
  s.script.length + Reaction.stepCount s.reactions

@[simp] theorem credit_complain (level : LogLevel) (what : String) (thrown : Option String)
    (s : Shell) : (s.complain level what thrown).credit = s.credit := by
  unfold complain; split <;> rfl

@[simp] theorem credit_shutdown (transport : Transport) (s : Shell) :
    (s.shutdown transport).credit = s.credit :=
  credit_complain ..

@[simp] theorem credit_release (s : Shell) : s.release.credit = s.credit := by
  unfold release
  split
  · rfl
  all_goals exact credit_shutdown ..

theorem credit_openTransport (s : Shell) : s.openTransport.2.credit = s.credit := by
  unfold openTransport
  dsimp only
  split <;> exact credit_release s

theorem credit_closeTransport (s : Shell) : s.closeTransport.credit = s.credit := by
  unfold closeTransport
  split
  · exact credit_shutdown ..
  all_goals rfl

theorem credit_send (text : String) (s : Shell) : (s.send text).credit = s.credit := by
  unfold send
  split
  · exact credit_complain ..
  all_goals rfl

theorem credit_scheduleReconnect (delay : Nat) (s : Shell) :
    (s.scheduleReconnect delay).credit = s.credit := by
  unfold scheduleReconnect
  split
  · exact credit_complain ..
  · rfl

theorem credit_giveCue_le (cue : String) (s : Shell) : (s.giveCue cue).credit ≤ s.credit := by
  have := Reaction.stepCount_take cue s.reactions
  simp only [credit, giveCue]
  omega

theorem credit_enter_le (call : HostCall) (s : Shell) : (s.enter call).2.credit ≤ s.credit := by
  cases call with
  | openTransport => exact Nat.le_of_eq (credit_openTransport s)
  | closeTransport => exact Nat.le_of_eq (credit_closeTransport s)
  | send text => exact Nat.le_of_eq (credit_send text s)
  | scheduleReconnect delay => exact Nat.le_of_eq (credit_scheduleReconnect delay s)
  | stateChanged status =>
      simp only [enter, stateChanged]
      split
      · exact Nat.le_refl _
      · exact credit_giveCue_le ..
  | deliver payload =>
      simp only [enter, deliver]
      split
      · exact Nat.le_refl _
      · exact credit_giveCue_le ..

theorem credit_runScript (session : Session) (script : List CallbackStep) (s : Shell) :
    (runScript session script s).2.credit +
        (if (runScript session script s).1.isSome then 1 else 0) ≤
      script.length + Reaction.stepCount s.reactions := by
  fun_induction runScript session script s with
  | case1 => exact Nat.le_refl _
  | case2 =>
      simp only [credit, register, Option.isSome_some, if_pos, List.length_cons]
      omega
  | case3 =>
      simp only [credit, Option.isSome_some, if_pos, List.length_cons]
      omega
  | case4 _ _ _ _ _ ih => simp only [record, List.length_cons] at ih ⊢; omega
  | case5 _ _ ih => simp only [record, List.length_cons] at ih ⊢; omega

def host : Host Shell where
  generation s := s.current?.map Transport.generation
  note notice s := s.write notice.record
  enter := enter
  resume session s := runScript session s.script s
  leave := leave
  credit := credit
  credit_note_le _ _ := Nat.le_refl _
  credit_enter_le := credit_enter_le
  credit_resume_le session s :=
    Nat.le_trans (Nat.le_add_right _ _) (credit_runScript session s.script s)
  credit_resume_lt session s h := by
    have := credit_runScript session s.script s
    rwa [if_pos h] at this
  credit_leave_le _ _ := Nat.le_of_eq (credit_complain ..)

end Shell

end ResumableSession
