import ResumableSession.Session.Basic

/-!
What is written to a log while effects are carried out.
-/

namespace ResumableSession

inductive TransportEvent where
  | opened
  | received (fragment : List UInt8)
  | lost (cause : TransportError)
  deriving DecidableEq, Repr

def TransportEvent.input : TransportEvent → Input
  | .opened => .opened
  | .received fragment => .received fragment
  | .lost cause => .lost cause

def TransportEvent.description : TransportEvent → String
  | .opened => "Open"
  | .received fragment =>
      let bytes := ", ".intercalate (fragment.map fun byte => toString byte.toNat)
      s!"Data([{bytes}])"
  | .lost (.closed code) => s!"Lost(Closed \x7b code: {code} \x7d)"
  | .lost .errored => "Lost(Errored)"

inductive LogLevel where
  | debug
  | info
  | warn
  | error
  deriving DecidableEq, Repr

def LogLevel.name : LogLevel → String
  | .debug => "DEBUG"
  | .info => "INFO"
  | .warn => "WARN"
  | .error => "ERROR"

structure LogRecord where
  level : LogLevel
  message : String
  fields : List String := []
  deriving DecidableEq, Repr

inductive Notice where
  | stateChanged (status : Status)
  | reconnectScheduled (delay : Nat)
  | reported (error : SessionError)
  | openFailed (reason : String)
  | staleEvent (generation : Nat) (event : TransportEvent)
  deriving DecidableEq, Repr

def Notice.record : Notice → LogRecord
  | .stateChanged status => ⟨.info, "Session state changed", [s!"state={status.name}"]⟩
  | .reconnectScheduled delay => ⟨.debug, "Reconnect scheduled", [s!"delay_ms={delay}"]⟩
  | .reported error =>
      if error.recoverable then ⟨.warn, "Session interrupted", [s!"error={error.message}"]⟩
      else ⟨.error, "Session failed", [s!"error={error.message}"]⟩
  | .openFailed reason => { level := .error, message := s!"Transport open failed: {reason}" }
  | .staleEvent generation event =>
      ⟨.debug, "Ignoring event from a retired transport",
        [s!"generation={generation}", s!"event={event.description}"]⟩

end ResumableSession
