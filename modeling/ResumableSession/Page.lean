import ResumableSession.Dispatch.Notice
import ResumableSession.Session.Stats
import ResumableSession.Table

/-!
The page that a client lives on.

A page has sockets, timers and a console, and it records what is done with them.  It can be told
to make these calls fail, by throwing a text.
-/

namespace ResumableSession

def describeThrown (thrown : String) : String :=
  s!"JsValue(\"{thrown}\")"

/-- A socket is made for one generation of connections, which its handlers tell. -/
structure Socket where
  generation : Nat
  /-- Whether it has its handlers. -/
  listening : Bool := false
  /-- Whether it was told to close. -/
  closed : Bool := false
  deriving DecidableEq, Repr

/-- What is recorded.  Callbacks carry the number of the call that registered them. -/
inductive Page.Entry where
  | socket (id : Nat) (url : String)
  | refused (url : String)
  | binaryType (id : Nat)
  | sent (id : Nat) (text : String)
  | closed (id : Nat)
  | timer (id delay : Nat)
  | state (registration : Nat) (status : Status)
  | delivered (registration : Nat) (text : String)
  | looked (overview : Session.Overview)
  | failed (message : String)
  | console (record : LogRecord)
  deriving DecidableEq, Repr

structure Page where
  hasWindow : Bool := true
  /-- The host of the location, or what is thrown when it is read. -/
  host : Except String String := .ok ""
  socketThrows : Option String := none
  sendThrows : Option String := none
  closeThrows : Option String := none
  timerThrows : Option String := none
  sockets : Table Nat Socket := []
  timerCount : Nat := 0
  /-- The timers that have not fired. -/
  timers : List Nat := []
  /-- Whether the console shows the log. -/
  logging : Bool := false
  log : List Page.Entry := []

namespace Page

def record (entry : Entry) (p : Page) : Page :=
  { p with log := p.log ++ [entry] }

def clearLog (p : Page) : Page :=
  { p with log := [] }

def write (record : LogRecord) (p : Page) : Page :=
  if p.logging then p.record (.console record) else p

def installLogging (p : Page) : Page :=
  if p.logging then p.write { level := .debug, message := "Logging subscriber already installed" }
  else { p with logging := true }

/-! ## Sockets -/

def openSocket (url : String) (generation : Nat) (p : Page) : Except String Nat × Page :=
  match p.socketThrows with
  | some thrown => (.error thrown, p.record (.refused url))
  | none =>
      let id := p.sockets.length + 1
      (.ok id,
        { p with sockets := Table.insert id { generation } p.sockets }.record (.socket id url))

def setBinaryType (id : Nat) (p : Page) : Page :=
  p.record (.binaryType id)

/-- Sets all handlers of a socket, or removes them. -/
def setHandlers (id : Nat) (listening : Bool) (p : Page) : Page :=
  { p with sockets := Table.modify id (fun socket => { socket with listening }) p.sockets }

def send (id : Nat) (text : String) (p : Page) : Option String × Page :=
  (p.sendThrows, p.record (.sent id text))

def close (id : Nat) (p : Page) : Option String × Page :=
  let closed := Table.modify id (fun socket => { socket with closed := true }) p.sockets
  (p.closeThrows, { p with sockets := closed }.record (.closed id))

def listener? (id : Nat) (p : Page) : Option Nat :=
  ((Table.find? id p.sockets).filter Socket.listening).map Socket.generation

def events : List String := ["close", "error", "message", "open"]

def handlers (p : Page) : List (Nat × String) :=
  p.sockets.flatMap fun (id, socket) =>
    if socket.listening then events.map (id, ·) else []

/-! ## Timers -/

def setTimer (delay : Nat) (p : Page) : Option String × Page :=
  match p.timerThrows with
  | some thrown => (some thrown, p)
  | none =>
      let id := p.timerCount + 1
      (none,
        { p with timerCount := id, timers := p.timers ++ [id] }.record (.timer id delay))

def removeTimer (id : Nat) (p : Page) : Page :=
  { p with timers := p.timers.filter (· ≠ id) }

end Page

end ResumableSession
