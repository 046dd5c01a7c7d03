import ResumableSession.Session.Basic

/-!
Payloads that come as text.
-/

namespace ResumableSession

structure PayloadError where
  error : Json.SyntaxError
  deriving DecidableEq, Repr

def PayloadError.message (e : PayloadError) : String :=
  s!"Invalid payload: {e.error.message}"

def Json.ofPayloadText (text : String) : Except PayloadError Json :=
  (Json.parse text).mapError .mk

def Input.ofPayloadText (text : String) : Except PayloadError Input :=
  (Json.ofPayloadText text).map .request

end ResumableSession
