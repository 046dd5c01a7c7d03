import ResumableSession.Proofs.Message.Transcription

/-!
Messages that are written and read back.

A message whose numbers fit a word and whose payload holds no doubles is read as it was written.
Its envelope is two lists around the payload, so the payload has two levels less than a reader
bears, and a message with a payload that is nested deeper is not understood.
-/

namespace ResumableSession

namespace Json

theorem exact_ofNat {n : Nat} : (ofNat n).Exact ↔ n < UInt64.size :=
  word_natCast

theorem exact_envelope {tag : String} {fields : List Json} :
    (envelope tag fields).Exact ↔ ExactItems fields := by
  simp [envelope, Exact, ExactItems]

theorem depth_envelope (tag : String) (fields : List Json) :
    (envelope tag fields).depth = depthItems fields + 2 := by
  simp [envelope, depth, depthItems]

theorem read_render_iff {α : Type} {v : Json} {read : Json → Except EnvelopeError α} {value : α}
    (hexact : v.Exact) (hread : read v = .ok value) :
    ((parse v.render).mapError EnvelopeError.invalidJson).bind read = .ok value ↔
      v.depth ≤ depthLimit := by
  rcases parse_render hexact with ⟨hfits, hparse⟩ | ⟨hdeep, error, hparse⟩
  · rw [hparse]
    exact iff_of_true hread hfits
  · rw [hparse]
    exact iff_of_false nofun hdeep

end Json

/-! ## Messages of the client -/

namespace ClientMessage

def payload? : ClientMessage → Option Json
  | .request r => some r.payload
  | .auth _ | .hello _ | .createSession | .attach _ _ => none

/-- The numbers of the message fit a word, and its payload holds no doubles. -/
def Exact : ClientMessage → Prop
  | .auth _ | .hello _ | .createSession => True
  | .attach _ responseCursor => responseCursor < UInt64.size
  | .request r => r.id < UInt64.size ∧ r.responseCursor < UInt64.size ∧ r.payload.Exact

theorem Exact.fields {m : ClientMessage} (h : m.Exact) : Json.ExactItems m.fields := by
  cases m with
  | auth token => exact ⟨trivial, trivial⟩
  | hello profile => exact ⟨⟨trivial, trivial, trivial⟩, trivial⟩
  | createSession => trivial
  | attach sessionId responseCursor => exact ⟨trivial, Json.exact_ofNat.mpr h, trivial⟩
  | request r =>
      obtain ⟨hid, hcursor, hpayload⟩ := h
      exact ⟨Json.exact_ofNat.mpr hid, Json.exact_ofNat.mpr hcursor, hpayload, trivial⟩

theorem depth_toJson_le (m : ClientMessage) :
    m.toJson.depth ≤ Json.depthLimit ↔ ∀ payload ∈ m.payload?, payload.depth ≤ 125 := by
  rw [toJson, Json.depth_envelope, Json.depthLimit]
  cases m <;>
    simp [fields, Request.fields, Profile.toJson, Json.ofNat, Json.depth, Json.depthItems,
      payload?]

theorem ofJson_toJson {m : ClientMessage} (h : m.Exact) : ofJson m.toJson = .ok m := by
  change ofTagged m.tag (.array m.fields) = .ok m
  cases m with
  | auth token =>
      simp [ofTagged, tag, fields, authOfFields, Json.expectString, Json.asString?, bind,
        Except.bind]
  | hello profile =>
      simp [ofTagged, tag, fields, helloOfFields, Profile.toJson, Profile.ofJson,
        Json.expectString, Json.asString?, bind, Except.bind]
  | createSession => simp [ofTagged, tag, fields, createSessionOfFields]
  | attach sessionId responseCursor =>
      have hcursor : responseCursor < UInt64.size := h
      simp [ofTagged, tag, fields, attachOfFields, Json.expectString, Json.asString?,
        Json.expectNat, hcursor, bind, Except.bind]
  | request r =>
      obtain ⟨hid, hcursor, -⟩ := h
      simp [ofTagged, tag, fields, Request.fields, Request.ofFields, Json.expectNat, hid, hcursor,
        bind, Except.bind, Except.map]

theorem decode_encode_iff {m : ClientMessage} (h : m.Exact) :
    decode m.encode = .ok m ↔ ∀ payload ∈ m.payload?, payload.depth ≤ 125 := by
  have hexact : m.toJson.Exact := Json.exact_envelope.mpr h.fields
  rw [← depth_toJson_le, ← Json.read_render_iff hexact (ofJson_toJson h)]
  rfl

end ClientMessage

/-! ## Messages to the client -/

namespace ServerMessage

def payload? : ServerMessage → Option Json
  | .response r => some r.payload
  | .success _ _ _ | .failure => none

/-- The numbers of the message fit a word, and its payload holds no doubles. -/
def Exact : ServerMessage → Prop
  | .success _ requestCursor _ => requestCursor < UInt64.size
  | .failure => True
  | .response r => r.id < UInt64.size ∧ r.requestCursor < UInt64.size ∧ r.payload.Exact

theorem Exact.toJson {m : ServerMessage} (h : m.Exact) : m.toJson.Exact := by
  cases m with
  | success sessionId requestCursor profile => exact exact_success.mpr h
  | failure => exact Json.exact_envelope.mpr trivial
  | response r => exact exact_response.mpr h

theorem depth_toJson_le (m : ServerMessage) :
    m.toJson.depth ≤ Json.depthLimit ↔ ∀ payload ∈ m.payload?, payload.depth ≤ 125 := by
  rw [toJson, Json.depth_envelope, Json.depthLimit]
  cases m <;>
    simp [fields, Response.fields, Profile.toJson, Json.ofNat, Json.depth, Json.depthItems,
      payload?]

theorem decode_encode_iff {m : ServerMessage} (h : m.Exact) :
    decode m.encode = .ok m ↔ ∀ payload ∈ m.payload?, payload.depth ≤ 125 := by
  rw [← depth_toJson_le, ← Json.read_render_iff h.toJson (ofJson_toJson h.toJson)]
  rfl

end ServerMessage

/-! ## All messages -/

/-- A message is read as it was written, exactly if its payload is not nested too deep. -/
theorem messages_read_back :
    (∀ m : ClientMessage, m.Exact →
      (ClientMessage.decode m.encode = .ok m ↔ ∀ payload ∈ m.payload?, payload.depth ≤ 125)) ∧
    ∀ m : ServerMessage, m.Exact →
      (ServerMessage.decode m.encode = .ok m ↔ ∀ payload ∈ m.payload?, payload.depth ≤ 125) :=
  ⟨fun _ => ClientMessage.decode_encode_iff, fun _ => ServerMessage.decode_encode_iff⟩

def outermost : Json :=
  .object [("\"\\\n", .number (.integer (-0x8000000000000000))),
    ("é\x01😀", .array [.array [], .number (.integer 0xffffffffffffffff)])]

theorem outermost_read_back :
    let asked : ClientMessage := .request ⟨0xffffffffffffffff, 0, outermost⟩
    let answered : ServerMessage := .response ⟨0, 0xffffffffffffffff, outermost⟩
    (asked.Exact ∧ (∀ payload ∈ asked.payload?, payload.depth ≤ 125) ∧
      ClientMessage.decode asked.encode = .ok asked) ∧
    answered.Exact ∧ (∀ payload ∈ answered.payload?, payload.depth ≤ 125) ∧
      ServerMessage.decode answered.encode = .ok answered := by
  intro asked answered
  have hexact : outermost.Exact := by
    have hnames : "\"\\\n" < "é\x01😀" := by decide
    have hleast : Json.Word (-0x8000000000000000) := ⟨by decide, by decide⟩
    have hlargest : Json.Word 0xffffffffffffffff := ⟨by decide, by decide⟩
    exact ⟨⟨hleast, ⟨trivial, hlargest, trivial⟩, trivial⟩, List.pairwise_pair.mpr hnames⟩
  have hdepth : outermost.depth ≤ 125 := by
    simp [outermost, Json.depth, Json.depthMembers, Json.depthItems]
  have hasked : asked.Exact := ⟨by decide, by decide, hexact⟩
  have hanswered : answered.Exact := ⟨by decide, by decide, hexact⟩
  have hfits : ∀ payload ∈ some outermost, payload.depth ≤ 125 := by
    rintro _ ⟨⟩
    exact hdepth
  exact ⟨⟨hasked, hfits, (messages_read_back.1 asked hasked).mpr hfits⟩,
    hanswered, hfits, (messages_read_back.2 answered hanswered).mpr hfits⟩

end ResumableSession
