import ResumableSession.Json.SyntaxError
import ResumableSession.Json.Basic
import ResumableSession.Text.Quoted

/-!
Envelopes, the form that all messages have as JSON: a list of the tag and of the list of fields.

Fields have no names, only places.  A reader asks for a fixed number of them and for the type of
each; `context` says in an error what was being read.
-/

namespace ResumableSession

inductive EnvelopeError where
  | invalidJson (error : Json.SyntaxError)
  | notAnArray (context : String)
  | wrongArity (context : String) (expected actual : Nat)
  | unknownTag (tag : String)
  | expectedString (context : String)
  | expectedInteger (context : String)
  deriving DecidableEq, Repr

namespace EnvelopeError

def message : EnvelopeError → String
  | .invalidJson error => s!"Invalid JSON: {error.message}"
  | .notAnArray context => s!"{context}: expected a JSON array"
  | .wrongArity context expected actual =>
      s!"{context}: expected {expected} elements, got {actual}"
  | .unknownTag tag => s!"Unknown envelope tag: {Text.Quoted.quote tag}"
  | .expectedString context => s!"{context}: expected a string"
  | .expectedInteger context => s!"{context}: expected a non-negative integer"

def ofShape (context : String) (expected : Nat) : Json → EnvelopeError
  | .array items => .wrongArity context expected items.length
  | _ => .notAnArray context

end EnvelopeError

namespace Json

def expectString (context : String) (v : Json) : Except EnvelopeError String :=
  match v.asString? with
  | some text => .ok text
  | none => .error (.expectedString context)

def expectNat (context : String) (v : Json) : Except EnvelopeError Nat :=
  match v.asNat? with
  | some n => .ok n
  | none => .error (.expectedInteger context)

def envelope (tag : String) (fields : List Json) : Json :=
  .array [.string tag, .array fields]

end Json

end ResumableSession
