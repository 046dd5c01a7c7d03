import ResumableSession.Proofs.Message.Transcription

/-!
Every message has one written form.

A value is read as a message exactly if it is the value that the message is written as.  A field
too many or too few, a tag that belongs to the other side, a number in any form but its digits:
each of them makes the reading fail, and nothing else is read in its place.
-/

namespace ResumableSession

/-! ## Fields -/

namespace Json

variable {v : Json} {context : String}

theorem asString?_eq_some {text : String} : v.asString? = some text ↔ v = .string text := by
  cases v <;> simp [asString?]

theorem asNat?_eq_some {n : Nat} : v.asNat? = some n ↔ n < UInt64.size ∧ v = ofNat n := by
  constructor
  · intro h
    unfold asNat? at h
    split at h
    · split at h
      · next hfits =>
          obtain rfl := Option.some.inj h
          exact ⟨hfits, rfl⟩
      · contradiction
    · contradiction
  · rintro ⟨hfits, rfl⟩
    exact asNat?_ofNat hfits

theorem expectString_eq_ok {text : String} :
    v.expectString context = .ok text ↔ v = .string text := by
  rw [← asString?_eq_some, expectString]
  cases v.asString? <;> simp

theorem expectNat_eq_ok_iff {n : Nat} :
    v.expectNat context = .ok n ↔ n < UInt64.size ∧ v = ofNat n :=
  expectNat_eq_ok.trans asNat?_eq_some

theorem do_eq_ok {ε α β : Type} {result : Except ε α} {next : α → Except ε β} {last : β} :
    (result >>= next) = .ok last ↔ ∃ value, result = .ok value ∧ next value = .ok last := by
  cases result <;> simp [bind, Except.bind]

theorem read_eq_ok_iff {α : Type} {read : Json → Except EnvelopeError α} {text : String}
    {value : α} {fits : Prop} {written : Json}
    (h : ∀ v, read v = .ok value ↔ fits ∧ v = written) :
    ((parse text).mapError EnvelopeError.invalidJson).bind read = .ok value ↔
      fits ∧ parse text = .ok written := by
  rw [read_eq_ok]
  constructor
  · rintro ⟨v, hparse, hread⟩
    obtain ⟨hfits, rfl⟩ := (h v).mp hread
    exact ⟨hfits, hparse⟩
  · rintro ⟨hfits, hparse⟩
    exact ⟨written, hparse, (h written).mpr ⟨hfits, rfl⟩⟩

end Json

open Json (asNat?_eq_some expectString_eq_ok expectNat_eq_ok_iff do_eq_ok)

theorem Profile.ofJson_eq_ok {v : Json} {p : Profile} : ofJson v = .ok p ↔ v = p.toJson := by
  constructor
  · intro h
    unfold ofJson at h
    split at h
    · simp only [do_eq_ok, expectString_eq_ok] at h
      obtain ⟨_, rfl, _, rfl, h⟩ := h
      obtain rfl := Except.ok.inj h
      rfl
    · contradiction
  · rintro rfl
    simp [ofJson, toJson, do_eq_ok, expectString_eq_ok]

theorem Request.ofFields_eq_ok {v : Json} {r : Request} :
    ofFields v = .ok r ↔
      (r.id < UInt64.size ∧ r.responseCursor < UInt64.size) ∧ v = .array r.fields := by
  constructor
  · intro h
    unfold ofFields at h
    split at h
    · simp only [do_eq_ok, expectNat_eq_ok_iff] at h
      obtain ⟨_, ⟨hid, rfl⟩, _, ⟨hcursor, rfl⟩, h⟩ := h
      obtain rfl := Except.ok.inj h
      exact ⟨⟨hid, hcursor⟩, rfl⟩
    · contradiction
  · rintro ⟨⟨hid, hcursor⟩, rfl⟩
    simp [ofFields, fields, Json.expectNat, hid, hcursor, bind, Except.bind]

theorem Response.ofFields_eq_ok {v : Json} {r : Response} :
    ofFields v = .ok r ↔
      (r.id < UInt64.size ∧ r.requestCursor < UInt64.size) ∧ v = .array r.fields := by
  constructor
  · intro h
    unfold ofFields at h
    split at h
    · simp only [do_eq_ok, expectNat_eq_ok_iff] at h
      obtain ⟨_, ⟨hid, rfl⟩, _, ⟨hcursor, rfl⟩, h⟩ := h
      obtain rfl := Except.ok.inj h
      exact ⟨⟨hid, hcursor⟩, rfl⟩
    · contradiction
  · rintro ⟨⟨hid, hcursor⟩, rfl⟩
    simp [ofFields, fields, Json.expectNat, hid, hcursor, bind, Except.bind]

/-! ## Messages of the client -/

namespace ClientMessage

/-- The numbers of the message fit a word. -/
def Fits : ClientMessage → Prop
  | .auth _ | .hello _ | .createSession => True
  | .attach _ responseCursor => responseCursor < UInt64.size
  | .request r => r.id < UInt64.size ∧ r.responseCursor < UInt64.size

variable {v body : Json} {tag : String} {m : ClientMessage}

theorem authOfFields_eq_ok :
    authOfFields body = .ok m ↔ ∃ token, m = .auth token ∧ body = .array m.fields := by
  constructor
  · intro h
    unfold authOfFields at h
    split at h
    · simp only [do_eq_ok, expectString_eq_ok] at h
      obtain ⟨token, rfl, h⟩ := h
      obtain rfl := Except.ok.inj h
      exact ⟨token, rfl, rfl⟩
    · contradiction
  · rintro ⟨token, rfl, rfl⟩
    simp [authOfFields, fields, do_eq_ok, expectString_eq_ok]

theorem helloOfFields_eq_ok :
    helloOfFields body = .ok m ↔ ∃ profile, m = .hello profile ∧ body = .array m.fields := by
  constructor
  · intro h
    unfold helloOfFields at h
    split at h
    · simp only [do_eq_ok, Profile.ofJson_eq_ok] at h
      obtain ⟨profile, rfl, h⟩ := h
      obtain rfl := Except.ok.inj h
      exact ⟨profile, rfl, rfl⟩
    · contradiction
  · rintro ⟨profile, rfl, rfl⟩
    simp [helloOfFields, fields, do_eq_ok, Profile.ofJson_eq_ok]

theorem createSessionOfFields_eq_ok :
    createSessionOfFields body = .ok m ↔ m = .createSession ∧ body = .array m.fields := by
  constructor
  · intro h
    unfold createSessionOfFields at h
    split at h
    · obtain rfl := Except.ok.inj h
      exact ⟨rfl, rfl⟩
    · contradiction
  · rintro ⟨rfl, rfl⟩
    rfl

theorem attachOfFields_eq_ok :
    attachOfFields body = .ok m ↔
      ∃ sessionId responseCursor, m = .attach sessionId responseCursor ∧
        responseCursor < UInt64.size ∧ body = .array m.fields := by
  constructor
  · intro h
    unfold attachOfFields at h
    split at h
    · simp only [do_eq_ok, expectString_eq_ok, expectNat_eq_ok_iff] at h
      obtain ⟨sessionId, rfl, responseCursor, ⟨hcursor, rfl⟩, h⟩ := h
      obtain rfl := Except.ok.inj h
      exact ⟨sessionId, responseCursor, rfl, hcursor, rfl⟩
    · contradiction
  · rintro ⟨sessionId, responseCursor, rfl, hcursor, rfl⟩
    simp [attachOfFields, fields, do_eq_ok, expectString_eq_ok, expectNat_eq_ok_iff, hcursor]

theorem map_request_eq_ok :
    (Request.ofFields body).map .request = .ok m ↔
      ∃ r, m = .request r ∧ m.Fits ∧ body = .array m.fields := by
  constructor
  · intro h
    obtain ⟨r, hr, rfl⟩ := Json.map_eq_ok h
    obtain ⟨hfits, hbody⟩ := Request.ofFields_eq_ok.mp hr
    exact ⟨r, rfl, hfits, hbody⟩
  · rintro ⟨r, rfl, hfits, hbody⟩
    rw [Request.ofFields_eq_ok.mpr ⟨hfits, hbody⟩]
    rfl

theorem ofTagged_eq_ok :
    ofTagged tag body = .ok m ↔ m.Fits ∧ tag = m.tag ∧ body = .array m.fields := by
  constructor
  · intro h
    unfold ofTagged at h
    split at h
    · next htag =>
        obtain ⟨token, rfl, hbody⟩ := authOfFields_eq_ok.mp h
        exact ⟨trivial, htag, hbody⟩
    split at h
    · next htag =>
        obtain ⟨profile, rfl, hbody⟩ := helloOfFields_eq_ok.mp h
        exact ⟨trivial, htag, hbody⟩
    split at h
    · next htag =>
        obtain ⟨rfl, hbody⟩ := createSessionOfFields_eq_ok.mp h
        exact ⟨trivial, htag, hbody⟩
    split at h
    · next htag =>
        obtain ⟨sessionId, responseCursor, rfl, hcursor, hbody⟩ := attachOfFields_eq_ok.mp h
        exact ⟨hcursor, htag, hbody⟩
    split at h
    · next htag =>
        obtain ⟨r, rfl, hfits, hbody⟩ := map_request_eq_ok.mp h
        exact ⟨hfits, htag, hbody⟩
    · contradiction
  · rintro ⟨hfits, rfl, hbody⟩
    cases m with
    | auth token => exact authOfFields_eq_ok.mpr ⟨token, rfl, hbody⟩
    | hello profile => exact helloOfFields_eq_ok.mpr ⟨profile, rfl, hbody⟩
    | createSession => exact createSessionOfFields_eq_ok.mpr ⟨rfl, hbody⟩
    | attach sessionId responseCursor =>
        exact attachOfFields_eq_ok.mpr ⟨sessionId, responseCursor, rfl, hfits, hbody⟩
    | request r => exact map_request_eq_ok.mpr ⟨r, rfl, hfits, hbody⟩

theorem ofJson_eq_ok : ofJson v = .ok m ↔ m.Fits ∧ v = m.toJson := by
  constructor
  · intro h
    unfold ofJson at h
    split at h
    · simp only [do_eq_ok, expectString_eq_ok] at h
      obtain ⟨_, rfl, h⟩ := h
      obtain ⟨hfits, rfl, rfl⟩ := ofTagged_eq_ok.mp h
      exact ⟨hfits, rfl⟩
    · contradiction
  · rintro ⟨hfits, rfl⟩
    exact ofTagged_eq_ok.mpr ⟨hfits, rfl, rfl⟩

theorem decode_eq_ok {text : String} :
    decode text = .ok m ↔ m.Fits ∧ Json.parse text = .ok m.toJson :=
  Json.read_eq_ok_iff fun _ => ofJson_eq_ok

end ClientMessage

/-! ## Messages to the client -/

namespace ServerMessage

/-- The numbers of the message fit a word. -/
def Fits : ServerMessage → Prop
  | .success _ requestCursor _ => requestCursor < UInt64.size
  | .failure => True
  | .response r => r.id < UInt64.size ∧ r.requestCursor < UInt64.size

variable {v body : Json} {tag : String} {m : ServerMessage}

theorem successOfFields_eq_ok :
    successOfFields body = .ok m ↔
      ∃ sessionId requestCursor profile, m = .success sessionId requestCursor profile ∧
        m.Fits ∧ body = .array m.fields := by
  constructor
  · intro h
    unfold successOfFields at h
    split at h
    · simp only [do_eq_ok, expectString_eq_ok, expectNat_eq_ok_iff, Profile.ofJson_eq_ok] at h
      obtain ⟨sessionId, rfl, requestCursor, ⟨hcursor, rfl⟩, profile, rfl, h⟩ := h
      obtain rfl := Except.ok.inj h
      exact ⟨sessionId, requestCursor, profile, rfl, hcursor, rfl⟩
    · contradiction
  · rintro ⟨sessionId, requestCursor, profile, rfl, hcursor, rfl⟩
    have hprofile : Profile.ofJson profile.toJson = .ok profile := Profile.ofJson_eq_ok.mpr rfl
    have hfits : requestCursor < UInt64.size := hcursor
    simp [successOfFields, fields, Json.expectString, Json.asString?, Json.expectNat, hfits,
      hprofile, bind, Except.bind]

theorem failureOfFields_eq_ok :
    failureOfFields body = .ok m ↔ m = .failure ∧ body = .array m.fields := by
  constructor
  · intro h
    unfold failureOfFields at h
    split at h
    · obtain rfl := Except.ok.inj h
      exact ⟨rfl, rfl⟩
    · contradiction
  · rintro ⟨rfl, rfl⟩
    rfl

theorem map_response_eq_ok :
    (Response.ofFields body).map .response = .ok m ↔
      ∃ r, m = .response r ∧ m.Fits ∧ body = .array m.fields := by
  constructor
  · intro h
    obtain ⟨r, hr, rfl⟩ := Json.map_eq_ok h
    obtain ⟨hfits, hbody⟩ := Response.ofFields_eq_ok.mp hr
    exact ⟨r, rfl, hfits, hbody⟩
  · rintro ⟨r, rfl, hfits, hbody⟩
    rw [Response.ofFields_eq_ok.mpr ⟨hfits, hbody⟩]
    rfl

theorem ofTagged_eq_ok :
    ofTagged tag body = .ok m ↔ m.Fits ∧ tag = m.tag ∧ body = .array m.fields := by
  constructor
  · intro h
    unfold ofTagged at h
    split at h
    · next htag =>
        obtain ⟨sessionId, requestCursor, profile, rfl, hfits, hbody⟩ :=
          successOfFields_eq_ok.mp h
        exact ⟨hfits, htag, hbody⟩
    split at h
    · next htag =>
        obtain ⟨rfl, hbody⟩ := failureOfFields_eq_ok.mp h
        exact ⟨trivial, htag, hbody⟩
    split at h
    · next htag =>
        obtain ⟨r, rfl, hfits, hbody⟩ := map_response_eq_ok.mp h
        exact ⟨hfits, htag, hbody⟩
    · contradiction
  · rintro ⟨hfits, rfl, hbody⟩
    cases m with
    | success sessionId requestCursor profile =>
        exact successOfFields_eq_ok.mpr
          ⟨sessionId, requestCursor, profile, rfl, hfits, hbody⟩
    | failure => exact failureOfFields_eq_ok.mpr ⟨rfl, hbody⟩
    | response r => exact map_response_eq_ok.mpr ⟨r, rfl, hfits, hbody⟩

theorem ofJson_eq_ok_iff : ofJson v = .ok m ↔ m.Fits ∧ v = m.toJson := by
  constructor
  · intro h
    unfold ofJson at h
    split at h
    · simp only [do_eq_ok, expectString_eq_ok] at h
      obtain ⟨_, rfl, h⟩ := h
      obtain ⟨hfits, rfl, rfl⟩ := ofTagged_eq_ok.mp h
      exact ⟨hfits, rfl⟩
    · contradiction
  · rintro ⟨hfits, rfl⟩
    exact ofTagged_eq_ok.mpr ⟨hfits, rfl, rfl⟩

theorem decode_eq_ok_iff {text : String} :
    decode text = .ok m ↔ m.Fits ∧ Json.parse text = .ok m.toJson :=
  Json.read_eq_ok_iff fun _ => ofJson_eq_ok_iff

end ServerMessage

/-! ## The tags of the other side -/

theorem ClientMessage.ofJson_toJson_server (m : ServerMessage) :
    ClientMessage.ofJson m.toJson = .error (.unknownTag m.tag) := by
  change ClientMessage.ofTagged m.tag (.array m.fields) = _
  cases m <;> simp [ServerMessage.tag, ClientMessage.ofTagged]

theorem ServerMessage.ofJson_toJson_client (m : ClientMessage) :
    ServerMessage.ofJson m.toJson = .error (.unknownTag m.tag) := by
  change ServerMessage.ofTagged m.tag (.array m.fields) = _
  cases m <;> simp [ClientMessage.tag, ServerMessage.ofTagged]

/-! ## All messages -/

/--
Exactly the written forms are read: from values, and from texts that stand for them.  Neither side
reads a message of the other.  A number in a text counts as natural only if it is spelled by its
digits.
-/
theorem messages_have_one_form :
    (∀ v m, ClientMessage.ofJson v = .ok m ↔ m.Fits ∧ v = m.toJson) ∧
    (∀ v m, ServerMessage.ofJson v = .ok m ↔ m.Fits ∧ v = m.toJson) ∧
    (∀ v p, Profile.ofJson v = .ok p ↔ v = p.toJson) ∧
    (∀ text m, ClientMessage.decode text = .ok m ↔ m.Fits ∧ Json.parse text = .ok m.toJson) ∧
    (∀ text m, ServerMessage.decode text = .ok m ↔ m.Fits ∧ Json.parse text = .ok m.toJson) ∧
    (∀ m : ServerMessage, ClientMessage.ofJson m.toJson = .error (.unknownTag m.tag)) ∧
    (∀ m : ClientMessage, ServerMessage.ofJson m.toJson = .error (.unknownTag m.tag)) ∧
    ∀ text rest (n : Nat), Json.outcome (Json.readNumber text) = .ok (.integer n, rest) ↔
      n < UInt64.size ∧ text = Nat.toDigits 10 n ++ rest ∧ Json.Stops rest :=
  ⟨fun _ _ => ClientMessage.ofJson_eq_ok, fun _ _ => ServerMessage.ofJson_eq_ok_iff,
    fun _ _ => Profile.ofJson_eq_ok, fun _ _ => ClientMessage.decode_eq_ok,
    fun _ _ => ServerMessage.decode_eq_ok_iff, ClientMessage.ofJson_toJson_server,
    ServerMessage.ofJson_toJson_client, fun _ _ _ => Json.readNumber_natural⟩

end ResumableSession
