import ResumableSession.Message.Codec
import ResumableSession.Proofs.Json.RoundTrip

/-!
What becomes of a message on its way through its written form.

Everything but the payload arrives as it was, or the message is not understood at all.  The
payload arrives as it was if it holds no doubles; a double may arrive as another one.
-/

namespace ResumableSession

namespace Json

variable {rest : List Char} {n d : Nat}

theorem ofNat_ne_float (n : Nat) (x : Float) : ofNat n ≠ .number (.float x) :=
  nofun

theorem outcome_ofNat (hrest : Closed rest) (hfits : n < UInt64.size) (d : Nat) :
    outcome (readValue d ((ofNat n).print ++ rest)) = .ok (ofNat n, rest) := by
  change outcome (readValue d (printInt n ++ rest)) = _
  rw [outcome_readValue_printInt, outcome_printInt (word_natCast.mpr hfits) hrest]
  rfl

theorem eq_of_asNat? {v : Json} {after : List Char} (hrest : Closed rest)
    (h : outcome (readValue d ((ofNat n).print ++ rest)) = .ok (v, after)) :
    after = rest ∧ ∀ m, v.asNat? = some m → v = ofNat n ∧ n < UInt64.size := by
  by_cases hfits : n < UInt64.size
  · rw [outcome_ofNat hrest hfits] at h
    obtain ⟨rfl, rfl⟩ := Prod.mk.inj (Except.ok.inj h)
    exact ⟨rfl, fun _ _ => ⟨rfl, hfits⟩⟩
  · have hprint : printInt n = Nat.toDigits 10 n := by
      rw [printInt, if_neg (by omega)]
      rfl
    change outcome (readValue d (printInt n ++ rest)) = _ at h
    rw [outcome_readValue_printInt, hprint, outcome_readNumber_toDigits] at h
    rcases readUnsigned_large hrest hfits with ⟨x, hread⟩ | ⟨fault, hread⟩
    · rw [hread] at h
      obtain ⟨rfl, rfl⟩ := Prod.mk.inj (Except.ok.inj h)
      refine ⟨rfl, fun m hm => ?_⟩
      simp [asNat?] at hm
    · rw [hread] at h
      contradiction

/-! ## Envelopes -/

theorem outcome_envelope (tag : String) (fields : List Json) :
    outcome (readValue depthLimit (envelope tag fields).print) =
      (outcome (readItems (readValue 125) (printItems fields ++ [']', ']']))).bind fun items =>
        (outcome (readMoreItems (readValue 126) items.2)).map fun more =>
          (.array (.string tag :: .array items.1 :: more.1), more.2) := by
  -- The fields of an envelope are read first, and nothing but the end may follow them.
  have htext : (envelope tag fields).print =
      '[' :: (printString tag ++ ',' :: '[' :: (printItems fields ++ [']', ']'])) := by
    simp [envelope, print, printItems]
  have hskip (rest : List Char) : skipBlanks (printString tag ++ rest) =
      '"' :: (tag.toList.flatMap escapeChar ++ ['"'] ++ rest) :=
    skipBlanks_cons rfl
  have hlimit : depthLimit = 125 + 1 + 1 := rfl
  rw [hlimit, outcome_readValue_array htext, outcome_readItems (hskip _) (by decide),
    readScalar_string]
  change (prepend (.string tag) (outcome (readMoreItems (readValue 126)
    (',' :: '[' :: (printItems fields ++ [']', ']']))))).map _ = _
  rw [outcome_readMoreItems_comma rfl (skipBlanks_cons rfl) (by decide),
    outcome_readValue_array rfl]
  cases outcome (readItems (readValue 125) (printItems fields ++ [']', ']'])) with
  | error fault => rfl
  | ok items =>
      change (prepend (.string tag) (prepend (.array items.1)
        (outcome (readMoreItems (readValue 126) items.2)))).map _ = _
      simp only [Except.bind]
      cases outcome (readMoreItems (readValue 126) items.2) <;> rfl

theorem read_eq_ok {α : Type} {text : String} {read : Json → Except EnvelopeError α} {value : α} :
    ((parse text).mapError EnvelopeError.invalidJson).bind read = .ok value ↔
      ∃ v, parse text = .ok v ∧ read v = .ok value := by
  cases parse text with
  | error error => exact iff_of_false nofun nofun
  | ok v =>
      constructor
      · intro h
        exact ⟨v, rfl, h⟩
      · rintro ⟨_, hv, hread⟩
        obtain rfl := Except.ok.inj hv
        exact hread

def Ended (rest : List Char) : Prop :=
  ∃ last, outcome (readMoreItems (readValue 126) rest) = .ok ([], last) ∧ skipBlanks last = []

end Json

namespace ServerMessage

theorem ofJson_eq_ok {tag : String} {body : Json} {more : List Json} {read : ServerMessage} :
    ofJson (.array (.string tag :: body :: more)) = .ok read ↔
      more = [] ∧ ofTagged tag body = .ok read := by
  cases more with
  | nil => simp [ofJson, Json.expectString, Json.asString?, bind, Except.bind]
  | cons item more => simp [ofJson]

theorem decode_eq_ok {text : String} {read : ServerMessage} :
    decode text = .ok read ↔ ∃ v, Json.parse text = .ok v ∧ ofJson v = .ok read :=
  Json.read_eq_ok

theorem decode_envelope {tag : String} {fields : List Json} {read : ServerMessage} :
    decode (Json.envelope tag fields).render = .ok read ↔
      ∃ items rest,
        Json.outcome (Json.readItems (Json.readValue 125) (Json.printItems fields ++ [']', ']'])) =
          .ok (items, rest) ∧
        Json.Ended rest ∧ ofTagged tag (.array items) = .ok read := by
  rw [decode_eq_ok]
  constructor
  · rintro ⟨v, hparse, hread⟩
    obtain ⟨last, hv, hskip⟩ := Json.parse_render_eq_ok.mp hparse
    rw [Json.outcome_envelope] at hv
    obtain ⟨⟨items, rest⟩, hitems, hmore⟩ := Json.bind_eq_ok hv
    obtain ⟨⟨more, _⟩, hlast, hresult⟩ := Json.map_eq_ok hmore
    obtain ⟨rfl, rfl⟩ := Prod.mk.inj hresult
    obtain ⟨rfl, hread⟩ := ofJson_eq_ok.mp hread
    exact ⟨items, rest, hitems, ⟨_, hlast, hskip⟩, hread⟩
  · rintro ⟨items, rest, hitems, ⟨last, hlast, hskip⟩, hread⟩
    have hv : Json.outcome (Json.readValue Json.depthLimit (Json.envelope tag fields).print) =
        .ok (.array [.string tag, .array items], last) := by
      rw [Json.outcome_envelope, hitems, Except.bind, hlast]
      rfl
    exact ⟨_, Json.parse_render_eq_ok.mpr ⟨last, hv, hskip⟩, ofJson_eq_ok.mpr ⟨rfl, hread⟩⟩

end ServerMessage

/-! ## Fields -/

theorem Json.expectNat_eq_ok {v : Json} {context : String} {n : Nat} :
    v.expectNat context = .ok n ↔ v.asNat? = some n := by
  unfold Json.expectNat
  cases v.asNat? <;> simp

theorem responseOfFields_eq_ok {items : List Json} {response : Response}
    (h : Response.ofFields (.array items) = .ok response) :
    ∃ id cursor, items = [id, cursor, response.payload] ∧ id.asNat? = some response.id ∧
      cursor.asNat? = some response.requestCursor := by
  unfold Response.ofFields at h
  split at h
  · next id cursor payload hitems =>
      obtain ⟨m, hid, h⟩ := Json.bind_eq_ok h
      obtain ⟨n, hcursor, h⟩ := Json.bind_eq_ok h
      obtain rfl := Except.ok.inj h
      exact ⟨id, cursor, Json.array.inj hitems, Json.expectNat_eq_ok.mp hid,
        Json.expectNat_eq_ok.mp hcursor⟩
  · contradiction

theorem successOfFields_eq_ok {items : List Json} {read : ServerMessage}
    (h : ServerMessage.successOfFields (.array items) = .ok read) :
    ∃ sessionId cursor profile n, items = [sessionId, cursor, profile] ∧
      cursor.asNat? = some n := by
  unfold ServerMessage.successOfFields at h
  split at h
  · next sessionId cursor profile hitems =>
      obtain ⟨_, -, h⟩ := Json.bind_eq_ok h
      obtain ⟨n, hcursor, h⟩ := Json.bind_eq_ok h
      exact ⟨sessionId, cursor, profile, n, Json.array.inj hitems,
        Json.expectNat_eq_ok.mp hcursor⟩
  · contradiction

namespace ServerMessage

theorem exact_success {sessionId : String} {requestCursor : Nat} {profile : Profile} :
    (success sessionId requestCursor profile).toJson.Exact ↔ requestCursor < UInt64.size := by
  simp [toJson, fields, Json.envelope, Json.Exact, Json.ExactItems, Profile.toJson, Json.ofNat,
    Json.word_natCast]

theorem exact_response {response : Response} :
    (ServerMessage.response response).toJson.Exact ↔
      response.id < UInt64.size ∧ response.requestCursor < UInt64.size ∧
        response.payload.Exact := by
  simp [toJson, fields, Response.fields, Json.envelope, Json.Exact, Json.ExactItems, Json.ofNat,
    Json.word_natCast]

theorem ofJson_toJson {m : ServerMessage} (hexact : m.toJson.Exact) : ofJson m.toJson = .ok m := by
  apply ofJson_eq_ok.mpr
  apply And.intro rfl
  cases m with
  | failure => rfl
  | success sessionId requestCursor profile =>
      have hcursor := exact_success.mp hexact
      simp [ofTagged, tag, fields, successOfFields, Json.expectString, Json.asString?,
        Json.expectNat, hcursor, Profile.toJson, Profile.ofJson, bind, Except.bind]
  | response response =>
      obtain ⟨hid, hcursor, -⟩ := exact_response.mp hexact
      simp [ofTagged, tag, fields, Response.fields, Response.ofFields, Json.expectNat, hid,
        hcursor, bind, Except.bind, Except.map]

theorem eq_of_exact {m read : ServerMessage} (hexact : m.toJson.Exact)
    (h : decode m.encode = .ok read) : read = m := by
  rw [decode, encode] at h
  rcases Json.parse_render hexact with ⟨-, hparse⟩ | ⟨-, error, hparse⟩
  · rw [hparse] at h
    exact (Except.ok.inj ((ofJson_toJson hexact).symm.trans h)).symm
  · rw [hparse] at h
    contradiction

end ServerMessage

/-! ## Transcriptions -/

/-- What is read where a response with this payload was written. -/
def Json.transcribed (payload : Json) : Json :=
  match ServerMessage.decode (ServerMessage.response ⟨0, 0, payload⟩).encode with
  | .ok (.response response) => response.payload
  | .ok _ | .error _ => payload

def ServerMessage.transcribed : ServerMessage → ServerMessage
  | .success sessionId requestCursor profile => .success sessionId requestCursor profile
  | .failure => .failure
  | .response ⟨id, requestCursor, payload⟩ => .response ⟨id, requestCursor, payload.transcribed⟩

theorem Json.transcribed_of_exact {payload : Json} (hexact : payload.Exact) :
    payload.transcribed = payload := by
  have hzero : 0 < UInt64.size := by decide
  have hresponse : (ServerMessage.response ⟨0, 0, payload⟩).toJson.Exact :=
    ServerMessage.exact_response.mpr ⟨hzero, hzero, hexact⟩
  unfold Json.transcribed
  split
  · next response h =>
      obtain rfl := ServerMessage.response.inj (ServerMessage.eq_of_exact hresponse h)
      rfl
  · rfl
  · rfl

namespace ServerMessage

theorem ofNat_item {n d : Nat} {rest last : List Char} {items : List Json}
    (hrest : Json.Closed rest)
    (h : (Json.outcome (Json.readValue d ((Json.ofNat n).print ++ rest))).bind (fun item =>
      Json.prepend item.1 (Json.outcome (Json.readMoreItems (Json.readValue d) item.2))) =
        .ok (items, last)) :
    ∃ v more, items = v :: more ∧
      Json.outcome (Json.readMoreItems (Json.readValue d) rest) = .ok (more, last) ∧
      ∀ m, v.asNat? = some m → v = .ofNat n ∧ n < UInt64.size := by
  obtain ⟨⟨v, after⟩, hv, hmore⟩ := Json.bind_eq_ok h
  obtain ⟨rfl, hnumber⟩ := Json.eq_of_asNat? hrest hv
  obtain ⟨more, hitems, hmore⟩ := Json.prepend_eq_ok hmore
  exact ⟨v, more, hitems, hmore, hnumber⟩

theorem outcome_fields {item : Json} (hfloat : ∀ x, item ≠ .number (.float x)) (items : List Json)
    (d : Nat) :
    Json.outcome (Json.readItems (Json.readValue d)
        (Json.printItems (item :: items) ++ [']', ']'])) =
      (Json.outcome (Json.readValue d (item.print ++ (Json.closing items ++ [']'])))).bind
        fun item =>
          Json.prepend item.1 (Json.outcome (Json.readMoreItems (Json.readValue d) item.2)) := by
  rw [List.append_cons, Json.printItems_cons, List.append_assoc,
    Json.outcome_readItems_print hfloat]

theorem closing_ofNat (n : Nat) (items : List Json) (rest : List Char) :
    Json.closing (.ofNat n :: items) ++ rest =
      ',' :: ((Json.ofNat n).print ++ (Json.closing items ++ rest)) := by
  simp [Json.closing]

theorem ofTagged_response (body : Json) :
    ofTagged "PackagedResponse" body = (Response.ofFields body).map .response := by
  simp [ofTagged]

theorem ofTagged_success (body : Json) : ofTagged "SessionSuccess" body = successOfFields body := by
  simp [ofTagged]

theorem transcribed_eq {payload read : Json} {rest : List Char}
    (hpayload : Json.outcome (Json.readMoreItems (Json.readValue 125)
      (Json.closing [payload] ++ [']'])) = .ok ([read], rest))
    (hended : Json.Ended rest) : payload.transcribed = read := by
  have hzero : 0 < UInt64.size := by decide
  have hcursor : Json.outcome (Json.readMoreItems (Json.readValue 125)
      (Json.closing [.ofNat 0, payload] ++ [']'])) = .ok ([.ofNat 0, read], rest) := by
    rw [closing_ofNat, Json.outcome_readMoreItems_print (Json.ofNat_ne_float 0),
      Json.outcome_ofNat (Json.closed_closing _ _) hzero, Except.bind, hpayload]
    rfl
  have hid : Json.outcome (Json.readItems (Json.readValue 125)
      (Json.printItems [.ofNat 0, .ofNat 0, payload] ++ [']', ']'])) =
        .ok ([.ofNat 0, .ofNat 0, read], rest) := by
    rw [outcome_fields (Json.ofNat_ne_float 0),
      Json.outcome_ofNat (Json.closed_closing _ _) hzero, Except.bind, hcursor]
    rfl
  have hdecode : decode (ServerMessage.response ⟨0, 0, payload⟩).encode =
      .ok (.response ⟨0, 0, read⟩) :=
    decode_envelope.mpr ⟨_, rest, hid, hended, rfl⟩
  unfold Json.transcribed
  split
  · next got h =>
      rw [hdecode] at h
      obtain rfl := ServerMessage.response.inj (Except.ok.inj h)
      rfl
  · next other hother h =>
      rw [hdecode] at h
      exact absurd (Except.ok.inj h).symm (hother _)
  · next error h =>
      rw [hdecode] at h
      exact nomatch h

theorem eq_transcribed_response {id requestCursor : Nat} {payload : Json} {read : ServerMessage}
    (h : decode (ServerMessage.response ⟨id, requestCursor, payload⟩).encode = .ok read) :
    read = .response ⟨id, requestCursor, payload.transcribed⟩ := by
  obtain ⟨items, rest, hitems, hended, hread⟩ := decode_envelope.mp h
  rw [fields, Response.fields, outcome_fields (Json.ofNat_ne_float id)] at hitems
  -- Both numbers count only if they are read as they were written.
  obtain ⟨v, more, rfl, hmore, hid⟩ := ofNat_item (Json.closed_closing _ _) hitems
  rw [closing_ofNat, Json.outcome_readMoreItems_print (Json.ofNat_ne_float _)] at hmore
  obtain ⟨w, more, rfl, hpayload, hcursor⟩ := ofNat_item (Json.closed_closing _ _) hmore
  rw [tag, ofTagged_response] at hread
  obtain ⟨response, hfields, rfl⟩ := Json.map_eq_ok hread
  obtain ⟨v', w', hlist, hv, hw⟩ := responseOfFields_eq_ok hfields
  simp only [List.cons.injEq] at hlist
  obtain ⟨rfl, rfl, rfl⟩ := hlist
  obtain ⟨rfl, hidFits⟩ := hid _ hv
  obtain ⟨rfl, hcursorFits⟩ := hcursor _ hw
  rw [Json.asNat?_ofNat hidFits] at hv
  rw [Json.asNat?_ofNat hcursorFits] at hw
  obtain rfl := Option.some.inj hv
  obtain rfl := Option.some.inj hw
  rw [transcribed_eq hpayload hended]

theorem lt_of_decode_success {sessionId : String} {requestCursor : Nat} {profile : Profile}
    {read : ServerMessage}
    (h : decode (success sessionId requestCursor profile).encode = .ok read) :
    requestCursor < UInt64.size := by
  obtain ⟨items, rest, hitems, -, hread⟩ := decode_envelope.mp h
  have hfloat (x : Float) : Json.string sessionId ≠ .number (.float x) := nofun
  rw [fields, outcome_fields hfloat] at hitems
  obtain ⟨⟨v, after⟩, hv, hprepend⟩ := Json.bind_eq_ok hitems
  obtain ⟨rfl, rfl⟩ := Prod.mk.inj (Except.ok.inj ((Json.readScalar_string _ _ _).symm.trans hv))
  obtain ⟨more, rfl, hmore⟩ := Json.prepend_eq_ok hprepend
  rw [closing_ofNat, Json.outcome_readMoreItems_print (Json.ofNat_ne_float _)] at hmore
  obtain ⟨w, more, rfl, -, hcursor⟩ := ofNat_item (Json.closed_closing _ _) hmore
  rw [tag, ofTagged_success] at hread
  obtain ⟨sessionId', w', profile', m, hlist, hw⟩ := successOfFields_eq_ok hread
  simp only [List.cons.injEq] at hlist
  obtain ⟨-, rfl, -⟩ := hlist
  exact (hcursor m hw).2

theorem eq_transcribed {written read : ServerMessage} (h : decode written.encode = .ok read) :
    read = written.transcribed := by
  cases written with
  | failure => exact eq_of_exact ⟨trivial, trivial, trivial⟩ h
  | response response => exact eq_transcribed_response h
  | success sessionId requestCursor profile =>
      exact eq_of_exact (exact_success.mpr (lt_of_decode_success h)) h

end ServerMessage

end ResumableSession
