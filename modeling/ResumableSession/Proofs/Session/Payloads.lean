import ResumableSession.Proofs.Json.Accepted
import ResumableSession.Proofs.Message.RoundTrip
import ResumableSession.Proofs.Session.CatchUp
import ResumableSession.Session.Payload

/-!
What becomes of a payload that comes as text.

A reader bears a payload of its full depth.  The request puts two more lists around it, and the
other side has the same reader, so it understands the request only if the payload is nested two
levels less.  A payload in between is taken in all the same: it gets a number, and it is kept and
sent like any other.

`taken_payloads_arrive` draws the line, for every time that the request is sent.
-/

namespace ResumableSession

def Frame.withoutNewline (frame : String) : String :=
  .ofList frame.toList.dropLast

theorem Frame.withoutNewline_wrap (message : String) : withoutNewline (wrap message) = message := by
  simp [withoutNewline, wrap]

/-! ## Reading a request -/

theorem Json.accepted_of_payloadText {text : String} {payload : Json}
    (h : Json.ofPayloadText text = .ok payload) : Accepted depthLimit payload := by
  rw [ofPayloadText] at h
  cases hparse : parse text with
  | ok v =>
      rw [hparse] at h
      obtain rfl := Except.ok.inj h
      exact accepted_of_parse hparse
  | error error =>
      rw [hparse] at h
      contradiction

theorem ClientMessage.decode_deep {m : ClientMessage} (hexact : m.Exact)
    (hdeep : ¬ ∀ payload ∈ m.payload?, payload.depth ≤ 125) :
    ∃ error, decode m.encode = .error (.invalidJson error) := by
  rw [← depth_toJson_le] at hdeep
  rcases Json.parse_render (Json.exact_envelope.mpr hexact.fields) with ⟨hfits, -⟩ | ⟨-, error, h⟩
  · exact absurd hfits hdeep
  · refine ⟨error, ?_⟩
    change ((Json.parse m.toJson.render).mapError EnvelopeError.invalidJson).bind ofJson = _
    rw [toJson, h]
    rfl

/-! ## Lists in lists -/

namespace Json

/-- Lists, one in the other, to so many levels. -/
def nested : Nat → Json
  | 0 => .null
  | levels + 1 => .array [nested levels]

theorem depth_nested (levels : Nat) : (nested levels).depth = levels := by
  induction levels with
  | zero => rfl
  | succ levels ih => simp [nested, depth, depthItems, ih]

theorem exact_nested (levels : Nat) : (nested levels).Exact := by
  induction levels with
  | zero => trivial
  | succ levels ih => exact ⟨ih, trivial⟩

theorem not_holdsDouble_nested (levels : Nat) : ¬ (nested levels).HoldsDouble := by
  induction levels with
  | zero => nofun
  | succ levels ih =>
      rintro ⟨⟩
      next item inside mem =>
        obtain rfl := List.mem_singleton.mp mem
        exact ih inside

theorem ofPayloadText_nested {levels : Nat} (h : levels ≤ depthLimit) :
    ofPayloadText (nested levels).render = .ok (nested levels) := by
  rcases parse_render (exact_nested levels) with ⟨-, hparse⟩ | ⟨hdeep, -⟩
  · rw [ofPayloadText, hparse]
    rfl
  · rw [depth_nested] at hdeep
    exact absurd h hdeep

end Json

namespace Session

variable {s after : Session} {moment : Moment} {effects : List Effect} {request : Request}

/-! ## Sending a request -/

structure Issued (request : Request) (s : Session) : Prop where
  given : request.id < s.nextRequestId
  unique : ∀ entry ∈ s.outbox.entries, entry.id = request.id → entry = request

def SendsOnly (request : Request) (effects : List Effect) : Prop :=
  ∀ sent, .send (.request sent) ∈ effects → sent.id = request.id → sent = request

theorem SendsOnly.append {more : List Effect} (hfirst : SendsOnly request effects)
    (hmore : SendsOnly request more) : SendsOnly request (effects ++ more) := by
  intro sent hmem hid
  rcases List.mem_append.mp hmem with hmem | hmem
  · exact hfirst sent hmem hid
  · exact hmore sent hmem hid

theorem SendsOnly.of_silent (h : ∀ effect ∈ effects, effect.silent) : SendsOnly request effects :=
  fun _ hmem _ => absurd (h _ hmem) Bool.false_ne_true

theorem issued_request (h : s.Numbered) (payload : Json) :
    Issued ⟨s.nextRequestId, s.responseCursor, payload⟩ (s.request payload).1 where
  given := Nat.lt_succ_self _
  unique entry hmem hid := by
    rcases List.mem_append.mp hmem with hmem | hmem
    · exact absurd hid (Nat.ne_of_lt (h.lt_of_mem hmem))
    · exact List.mem_singleton.mp hmem

theorem Issued.unique_dropBelow (h : Issued request s) (threshold : Nat) :
    ∀ entry ∈ (s.outbox.dropBelow threshold).entries, entry.id = request.id → entry = request :=
  fun entry hmem => h.unique entry (Outbox.mem_of_mem_dropBelow hmem)

theorem Met.issued (hmet : Met s moment after effects) (h : Issued request s) :
    Issued request after ∧ SendsOnly request effects := by
  cases hmet with
  | ignored plain => exact ⟨h, .of_silent nofun⟩
  | opening down plain => exact ⟨⟨h.given, h.unique⟩, fun sent hmem => by simp at hmem⟩
  | greeted messages waiting plain openers =>
      refine ⟨⟨h.given, h.unique⟩, .append (fun sent hmem => ?_) ?_⟩
      · simp [openers] at hmem
      · exact .of_silent (by simp [Effect.silent])
  | asked payload plain =>
      -- Another request is made, with a number of its own.
      have hother : s.nextRequestId ≠ request.id := Nat.ne_of_gt h.given
      refine ⟨⟨Nat.lt_succ_of_lt h.given, fun entry hmem hid => ?_⟩, fun sent hmem hid => ?_⟩
      · rcases List.mem_append.mp hmem with hmem | hmem
        · exact h.unique entry hmem hid
        · obtain rfl := List.mem_singleton.mp hmem
          exact absurd hid hother
      · split at hmem
        · obtain rfl : sent = ⟨s.nextRequestId, s.responseCursor, payload⟩ := by simpa using hmem
          exact absurd hid hother
        · contradiction
  | attached sessionId requestCursor profile changes welcome silent =>
      have hkept := h.unique_dropBelow requestCursor
      refine ⟨⟨h.given, hkept⟩, .append (fun sent hmem => ?_) (.of_silent silent)⟩
      obtain ⟨entry, hentry, heq⟩ := List.mem_map.mp hmem
      obtain rfl : entry = sent := by simpa using heq
      exact hkept entry hentry
  | accepted response live plain isNext =>
      exact ⟨⟨h.given, h.unique_dropBelow response.requestCursor⟩,
        .of_silent (by simp [Effect.silent])⟩
  | passedOver response live plain isOther =>
      exact ⟨h, .of_silent (by simp [Effect.silent])⟩
  | ended status before closing live down plain silentBefore silentAfter =>
      refine ⟨⟨h.given, h.unique⟩, .append (.of_silent silentBefore) fun sent hmem => ?_⟩
      rcases List.mem_cons.mp hmem with heq | hmem
      · contradiction
      · exact SendsOnly.of_silent silentAfter sent hmem

theorem sendsOnly_meetAll (h : Issued request s) (moments : List Moment) :
    SendsOnly request (s.meetAll moments).2 := by
  induction moments generalizing s with
  | nil => exact .of_silent nofun
  | cons moment rest ih =>
      obtain ⟨hafter, hsends⟩ := (meet_met moment s).issued h
      exact hsends.append (ih hafter)

theorem sendsOnly_asked (h : s.Numbered) (payload : Json) (rest : List Moment) :
    SendsOnly ⟨s.nextRequestId, s.responseCursor, payload⟩
      (s.meetAll (.request payload :: rest)).2 := by
  refine .append (fun sent hmem _ => ?_) (sendsOnly_meetAll (issued_request h payload) rest)
  change _ ∈ (if s.status = .attached then _ else _) at hmem
  split at hmem
  · simpa using hmem
  · contradiction

theorem sendsOnly_steps (config : Config) (before later : List Input) (payload : Json) :
    let s := ((new config).steps before).1
    SendsOnly ⟨s.nextRequestId, s.responseCursor, payload⟩
      (s.steps (.request payload :: later)).2 := by
  intro s
  have hbare : s.bare = ((new config).meetAll ((new config).history before)).1 :=
    congrArg Prod.fst (steps_new config before)
  have hnumbered : s.bare.Numbered := hbare ▸ (Numbered.new config).meetAll _
  have htidy : Tidy s := (Tidy.new config).steps before
  have heffects := congrArg Prod.snd (steps_history htidy (.request payload :: later))
  rw [heffects]
  exact sendsOnly_asked hnumbered payload _

/-- A payload without doubles that can be read is nested at most 127 levels deep.  Whenever its
request is sent, the other side reads the request off the frame if there are at most 125 levels,
and otherwise cannot read the frame at all. -/
theorem taken_payloads_arrive (config : Config) (before later : List Input) (s : Session)
    (hreached : ((new config).steps before).1 = s) (hid : s.nextRequestId < UInt64.size)
    (hcursor : s.responseCursor < UInt64.size) (text : String) (payload : Json)
    (hread : Json.ofPayloadText text = .ok payload) (hplain : ¬ payload.HoldsDouble) :
    payload.depth ≤ 127 ∧
      ∀ sent, .send (.request sent) ∈ (s.steps (.request payload :: later)).2 →
        sent.id = s.nextRequestId →
          sent = ⟨s.nextRequestId, s.responseCursor, payload⟩ ∧
          (payload.depth ≤ 125 →
            ClientMessage.decode (Frame.withoutNewline (ClientMessage.request sent).frame) =
              .ok (.request sent)) ∧
          (125 < payload.depth → ∃ error,
            ClientMessage.decode (Frame.withoutNewline (ClientMessage.request sent).frame) =
              .error (.invalidJson error)) := by
  have haccepted := Json.accepted_of_payloadText hread
  refine ⟨haccepted.fits, fun sent hmem hsent => ?_⟩
  have hsame : sent = ⟨s.nextRequestId, s.responseCursor, payload⟩ := by
    subst hreached
    exact sendsOnly_steps config before later payload sent hmem hsent
  subst hsame
  have hexact : (ClientMessage.request ⟨s.nextRequestId, s.responseCursor, payload⟩).Exact :=
    ⟨hid, hcursor, haccepted.exact hplain⟩
  rw [ClientMessage.frame, Frame.withoutNewline_wrap]
  refine ⟨rfl, fun hfits => ?_, fun hdeep => ?_⟩
  · refine (ClientMessage.decode_encode_iff hexact).mpr ?_
    simpa [ClientMessage.payload?] using hfits
  · refine ClientMessage.decode_deep hexact ?_
    simpa [ClientMessage.payload?] using hdeep

def joining : List Input :=
  [.connect, .opened,
    .received (Text.Utf8.encode
      (Frame.wrap (ServerMessage.encode (.success "s:1" 1000 ⟨"u", "g"⟩))))]

theorem nested_payload_arrives :
    let s := ((new {}).steps joining).1
    let payload := Json.nested 125
    let request : Request := ⟨1000, 0, payload⟩
    (s.nextRequestId < UInt64.size ∧ s.responseCursor < UInt64.size ∧
      Json.ofPayloadText payload.render = .ok payload ∧ ¬ payload.HoldsDouble) ∧
    (s.steps (.request payload :: .lost .errored :: joining)).2.count
      (.send (.request request)) = 2 ∧
    ClientMessage.decode (Frame.withoutNewline (ClientMessage.request request).frame) =
      .ok (.request request) := by
  intro s payload request
  obtain ⟨hid, hcursor⟩ : s.nextRequestId = 1000 ∧ s.responseCursor = 0 := by decide +kernel
  have hbounds : s.nextRequestId < UInt64.size ∧ s.responseCursor < UInt64.size := by
    rw [hid, hcursor]
    decide
  have hread : Json.ofPayloadText payload.render = .ok payload :=
    Json.ofPayloadText_nested (by decide)
  have hplain : ¬ payload.HoldsDouble := Json.not_holdsDouble_nested 125
  have hcount : (s.steps (.request payload :: .lost .errored :: joining)).2.count
      (.send (.request request)) = 2 := by
    decide +kernel
  have hmem : .send (.request request) ∈
      (s.steps (.request payload :: .lost .errored :: joining)).2 :=
    List.count_pos_iff.mp (Nat.lt_of_lt_of_eq Nat.zero_lt_two hcount.symm)
  obtain ⟨-, harrives⟩ := taken_payloads_arrive {} joining (.lost .errored :: joining) s rfl
    hbounds.1 hbounds.2 _ payload hread hplain
  have hdepth : payload.depth ≤ 125 := Nat.le_of_eq (Json.depth_nested 125)
  exact ⟨⟨hbounds.1, hbounds.2, hread, hplain⟩, hcount,
    (harrives request hmem hid.symm).2.1 hdepth⟩

/-- With 126 levels, the payload can be read and its request is sent, over and over, but there is no
reading the request. -/
theorem nested_payload_lost :
    let s := ((new {}).steps joining).1
    let payload := Json.nested 126
    let request : Request := ⟨1000, 0, payload⟩
    Json.ofPayloadText payload.render = .ok payload ∧ ¬ payload.HoldsDouble ∧
    (s.steps (.request payload :: .lost .errored :: joining)).2.count
      (.send (.request request)) = 2 ∧
    ¬ ∃ read, ClientMessage.decode (Frame.withoutNewline (ClientMessage.request request).frame) =
      .ok read := by
  intro s payload request
  have hexact : (ClientMessage.request request).Exact :=
    ⟨by decide, by decide, Json.exact_nested 126⟩
  have hdeep : ¬ ∀ payload ∈ (ClientMessage.request request).payload?, payload.depth ≤ 125 := by
    intro hall
    have hdepth := hall payload rfl
    rw [Json.depth_nested] at hdepth
    omega
  obtain ⟨error, hrefused⟩ := ClientMessage.decode_deep hexact hdeep
  refine ⟨Json.ofPayloadText_nested (by decide), Json.not_holdsDouble_nested 126, ?_, ?_⟩
  · decide +kernel
  · rintro ⟨read, hread⟩
    rw [ClientMessage.frame, Frame.withoutNewline_wrap, hrefused] at hread
    cases hread

end Session

end ResumableSession
