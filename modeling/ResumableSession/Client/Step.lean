import ResumableSession.Client.Shell

/-!
A client of the session protocol on a page.

`Client.new` makes a client, and `Client.step` says what comes of what the application or the
page does with it.  A client that was freed leaves its page behind, with timers that may still
fire.
-/

namespace ResumableSession

/-! ## Making a client -/

inductive LocationError where
  | noWindow
  | unreadable (thrown : String)
  deriving DecidableEq, Repr

def LocationError.message : LocationError → String
  | .noWindow => "No window available"
  | .unreadable thrown => s!"Cannot read location.host: {describeThrown thrown}"

def Page.defaultUrl (p : Page) : Except LocationError String :=
  if p.hasWindow then
    match p.host with
    | .ok host => .ok s!"wss://{host}/api/"
    | .error thrown => .error (.unreadable thrown)
  else .error .noWindow

structure Client.Options where
  url : Option String := none
  reconnectDelay : Option Nat := none
  authToken : Option String := none
  deriving DecidableEq, Repr

structure Client where
  dispatch : Dispatch Shell
  freed : Bool := false

namespace Client

def Options.config (options : Options) : Session.Config :=
  let standard : Session.Config := {}
  { reconnectDelay := options.reconnectDelay.getD standard.reconnectDelay
    authToken := options.authToken }

def new (options : Options) (reactions : List (Reaction CallbackStep)) (page : Page) :
    Except LocationError Client := do
  let url ← match options.url with
    | some url => .ok url
    | none => page.defaultUrl
  .ok { dispatch := { session := .new options.config, host := { page, url, reactions } } }

/-! ## Using a client -/

def session (c : Client) : Session :=
  c.dispatch.session

def page (c : Client) : Page :=
  c.dispatch.host.page

def modifyShell (change : Shell → Shell) (c : Client) : Client :=
  { c with dispatch := { c.dispatch with host := change c.dispatch.host } }

def modifyPage (change : Page → Page) (c : Client) : Client :=
  c.modifyShell fun shell => { shell with page := change shell.page }

def perform (call : Call) (c : Client) : Client :=
  { c with dispatch := c.dispatch.perform Shell.host call }

def start (c : Client) : Client :=
  (c.modifyShell Shell.register).perform (.submit .start)

def sendRequest (value : OfferedValue) (c : Client) : Except OfferError Client := do
  let input ← value.input
  .ok (c.perform (.submit input))

def free (c : Client) : Client :=
  if c.freed then c else { c.modifyShell Shell.release with freed := true }

/-! ## What a page does -/

inductive MessageData where
  | text (text : String)
  | bytes (bytes : List UInt8)
  | other
  deriving DecidableEq, Repr

inductive SocketEvent where
  | opened
  | errored
  | closed (code : Nat)
  | message (data : MessageData)
  deriving DecidableEq, Repr

def SocketEvent.transportEvent? : SocketEvent → Option TransportEvent
  | .opened => some .opened
  | .errored => some (.lost .errored)
  | .closed code => some (.lost (.closed code))
  | .message (.text text) => some (.received (Text.Utf8.encode text))
  | .message (.bytes bytes) => some (.received bytes)
  | .message .other => none

def socketEvent (socket : Nat) (event : SocketEvent) (c : Client) : Bool × Client :=
  match c.page.listener? socket with
  | none => (false, c)
  | some generation =>
      match event.transportEvent? with
      | some event => (true, c.perform (.event generation event))
      | none =>
          (true,
            c.modifyPage (Page.write
              { level := .warn, message := "Ignoring WebSocket message of unsupported type" }))

def fireTimer (timer : Nat) (c : Client) : Bool × Client :=
  if timer ∈ c.page.timers then
    let c := c.modifyPage (Page.removeTimer timer)
    (true, if c.freed then c else c.perform (.submit .connect))
  else (false, c)

/-! ## Steps -/

structure Conditions where
  hasWindow : Bool := true
  socketThrows : Option String := none
  sendThrows : Option String := none
  closeThrows : Option String := none
  timerThrows : Option String := none
  deriving DecidableEq, Repr

def Conditions.apply (conditions : Conditions) (p : Page) : Page :=
  { p with
    hasWindow := conditions.hasWindow
    socketThrows := conditions.socketThrows
    sendThrows := conditions.sendThrows
    closeThrows := conditions.closeThrows
    timerThrows := conditions.timerThrows }

inductive Step where
  | start
  | send (value : OfferedValue)
  | look
  | event (socket : Nat) (event : SocketEvent)
  | timer (timer : Nat)
  | conditions (conditions : Conditions)
  | initLogging
  | wait
  | free
  deriving DecidableEq, Repr

inductive Outcome where
  | done
  | refused (error : OfferError)
  | looked (overview : Session.Overview)
  | handled (handled : Bool)
  deriving DecidableEq, Repr

def step (action : Step) (c : Client) : Outcome × Client :=
  match action with
  | .start => (.done, c.start)
  | .send value =>
      match c.sendRequest value with
      | .ok c => (.done, c)
      | .error error => (.refused error, c)
  | .look => (.looked c.session.overview, c)
  | .event socket event =>
      let (handled, c) := c.socketEvent socket event
      (.handled handled, c)
  | .timer timer =>
      let (handled, c) := c.fireTimer timer
      (.handled handled, c)
  | .conditions conditions => (.done, c.modifyPage conditions.apply)
  | .initLogging => (.done, c.modifyPage Page.installLogging)
  | .wait => (.done, c)
  | .free => (.done, c.free)

end Client

end ResumableSession
