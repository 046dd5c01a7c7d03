import ResumableSession.Json.Printer
import ResumableSession.Json.Reader
import ResumableSession.Message.Basic
import ResumableSession.Message.Envelope

/-!
Messages as JSON and as lines of text.

`ofJson` accepts a value only if it is the `toJson` of a message: every field in its place, none
missing and none left over.
-/

namespace ResumableSession

/-! ## Profiles and packages -/

def Profile.toJson (p : Profile) : Json :=
  .array [.string p.userId, .string p.signature]

def Profile.ofJson : Json → Except EnvelopeError Profile
  | .array [userId, signature] => do
      let userId ← userId.expectString "Profile.userId"
      let signature ← signature.expectString "Profile.signature"
      .ok ⟨userId, signature⟩
  | v => .error (.ofShape "Profile" 2 v)

def Profile.record (p : Profile) : Json :=
  .object [("userId", .string p.userId), ("signature", .string p.signature)]

def Request.fields (r : Request) : List Json :=
  [.ofNat r.id, .ofNat r.responseCursor, r.payload]

def Request.ofFields : Json → Except EnvelopeError Request
  | .array [id, responseCursor, payload] => do
      let id ← id.expectNat "PackagedRequest.requestId"
      let responseCursor ← responseCursor.expectNat "PackagedRequest.responseCursorSnapshot"
      .ok ⟨id, responseCursor, payload⟩
  | v => .error (.ofShape "PackagedRequest" 3 v)

def Response.fields (r : Response) : List Json :=
  [.ofNat r.id, .ofNat r.requestCursor, r.payload]

def Response.ofFields : Json → Except EnvelopeError Response
  | .array [id, requestCursor, payload] => do
      let id ← id.expectNat "PackagedResponse.responseId"
      let requestCursor ← requestCursor.expectNat "PackagedResponse.requestCursor"
      .ok ⟨id, requestCursor, payload⟩
  | v => .error (.ofShape "PackagedResponse" 3 v)

/-! ## Messages of the client -/

namespace ClientMessage

def fields : ClientMessage → List Json
  | .auth token => [.string token]
  | .hello profile => [profile.toJson]
  | .createSession => []
  | .attach sessionId responseCursor => [.string sessionId, .ofNat responseCursor]
  | .request r => r.fields

def toJson (m : ClientMessage) : Json :=
  .envelope m.tag m.fields

def authOfFields : Json → Except EnvelopeError ClientMessage
  | .array [token] => do
      let token ← token.expectString "Auth.token"
      .ok (.auth token)
  | v => .error (.ofShape "Auth" 1 v)

def helloOfFields : Json → Except EnvelopeError ClientMessage
  | .array [profile] => do
      let profile ← Profile.ofJson profile
      .ok (.hello profile)
  | v => .error (.ofShape "Hello" 1 v)

def createSessionOfFields : Json → Except EnvelopeError ClientMessage
  | .array [] => .ok .createSession
  | v => .error (.ofShape "CreateSession" 0 v)

def attachOfFields : Json → Except EnvelopeError ClientMessage
  | .array [sessionId, responseCursor] => do
      let sessionId ← sessionId.expectString "AttachToSession.sessionId"
      let responseCursor ← responseCursor.expectNat "AttachToSession.responseCursor"
      .ok (.attach sessionId responseCursor)
  | v => .error (.ofShape "AttachToSession" 2 v)

def ofTagged (tag : String) (body : Json) : Except EnvelopeError ClientMessage :=
  if tag = "Auth" then authOfFields body
  else if tag = "Hello" then helloOfFields body
  else if tag = "CreateSession" then createSessionOfFields body
  else if tag = "AttachToSession" then attachOfFields body
  else if tag = "PackagedRequest" then (Request.ofFields body).map .request
  else .error (.unknownTag tag)

def ofJson : Json → Except EnvelopeError ClientMessage
  | .array [tag, body] => do
      let tag ← tag.expectString "envelope tag"
      ofTagged tag body
  | v => .error (.ofShape "envelope" 2 v)

def encode (m : ClientMessage) : String :=
  m.toJson.render

def decode (text : String) : Except EnvelopeError ClientMessage := do
  let v ← (Json.parse text).mapError .invalidJson
  ofJson v

end ClientMessage

/-! ## Messages to the client -/

namespace ServerMessage

def fields : ServerMessage → List Json
  | .success sessionId requestCursor profile =>
      [.string sessionId, .ofNat requestCursor, profile.toJson]
  | .failure => []
  | .response r => r.fields

def toJson (m : ServerMessage) : Json :=
  .envelope m.tag m.fields

def successOfFields : Json → Except EnvelopeError ServerMessage
  | .array [sessionId, requestCursor, profile] => do
      let sessionId ← sessionId.expectString "SessionSuccess.assignedSessionId"
      let requestCursor ← requestCursor.expectNat "SessionSuccess.requestCursor"
      let profile ← Profile.ofJson profile
      .ok (.success sessionId requestCursor profile)
  | v => .error (.ofShape "SessionSuccess" 3 v)

def failureOfFields : Json → Except EnvelopeError ServerMessage
  | .array [] => .ok .failure
  | v => .error (.ofShape "SessionFailure" 0 v)

def ofTagged (tag : String) (body : Json) : Except EnvelopeError ServerMessage :=
  if tag = "SessionSuccess" then successOfFields body
  else if tag = "SessionFailure" then failureOfFields body
  else if tag = "PackagedResponse" then (Response.ofFields body).map .response
  else .error (.unknownTag tag)

def ofJson : Json → Except EnvelopeError ServerMessage
  | .array [tag, body] => do
      let tag ← tag.expectString "envelope tag"
      ofTagged tag body
  | v => .error (.ofShape "envelope" 2 v)

def encode (m : ServerMessage) : String :=
  m.toJson.render

def decode (text : String) : Except EnvelopeError ServerMessage := do
  let v ← (Json.parse text).mapError .invalidJson
  ofJson v

end ServerMessage

end ResumableSession
