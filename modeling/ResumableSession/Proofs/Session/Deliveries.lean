import ResumableSession.Proofs.Session.Fragments
import ResumableSession.Proofs.Session.Turns

/-!
The responses that a session delivers.

A session waits for one response at a time.  What it delivers is numbered from 0 without a gap,
whatever the other side sends and on however many connections.  A response with another number is
reported and nothing else comes of it, and nothing at all comes of what follows a message that ends
the connection.
-/

namespace ResumableSession

def deliveries (effects : List Effect) : List Json :=
  effects.filterMap fun
    | .deliver payload => some payload
    | .openTransport | .closeTransport | .send _ | .scheduleReconnect _ | .stateChanged _
    | .report _ => none

@[simp] theorem deliveries_nil : deliveries [] = [] :=
  rfl

@[simp] theorem deliveries_append (first second : List Effect) :
    deliveries (first ++ second) = deliveries first ++ deliveries second := by
  simp [deliveries]

theorem deliveries_eq_nil {effects : List Effect} (h : ∀ payload, .deliver payload ∉ effects) :
    deliveries effects = [] := by
  apply List.filterMap_eq_nil_iff.mpr
  intro effect hmem
  cases effect with
  | deliver payload => exact absurd hmem (h payload)
  | openTransport | closeTransport | send message | scheduleReconnect delay | stateChanged status
  | report error => rfl

def ServerMessage.response? : ServerMessage → Option Response
  | .response r => some r
  | .success _ _ _ | .failure => none

theorem ServerMessage.response?_eq_some {heard : Option ServerMessage} {response : Response} :
    heard.bind ServerMessage.response? = some response ↔ heard = some (.response response) := by
  cases heard with
  | none => simp
  | some message => cases message <;> simp [response?]

namespace Session

variable {s after : Session} {moment : Moment} {heard : Option ServerMessage}
  {effects : List Effect} {response : Response}

/-! ## Turns -/

theorem Reply.deliveries_eq_nil (h : Reply s moment heard after effects)
    (hnone : heard.bind ServerMessage.response? = none) : deliveries effects = [] := by
  apply ResumableSession.deliveries_eq_nil
  intro payload
  cases h with
  | accepts line live response isNext | passesOver line live response isOther =>
      simp [ServerMessage.response?] at hnone
  | ends live unasked ending retried => cases ending <;> simp [Ending.effects]
  | asks payload => split <;> simp
  | succeeds line live sessionId requestCursor profile => split <;> simp
  | ignored unasked | connects down | opens waiting | fails line live => simp [Ending.effects]

theorem Reply.admits (h : Reply s moment (some (.response response)) after effects) :
    (response.id = s.responseCursor ∧ effects = [.deliver response.payload]) ∨
      response.id ≠ s.responseCursor ∧
        effects = [.report (.outOfOrder s.responseCursor response.id)] ∧ after = s := by
  cases h with
  | accepts line live response isNext => exact .inl ⟨isNext, rfl⟩
  | passesOver line live response isOther => exact .inr ⟨isOther, rfl, rfl⟩

theorem Reply.cursor (h : Reply s moment heard after effects) :
    after.responseCursor = s.responseCursor + (deliveries effects).length := by
  have hnothing := h.deliveries_eq_nil
  cases h with
  | accepts line live response isNext | passesOver line live response isOther => rfl
  | ignored unasked | connects down | opens waiting | asks payload
  | ends live unasked ending retried | succeeds line live sessionId requestCursor profile
  | fails line live => simp [hnothing rfl]

def Turn.response? (t : Turn) : Option Response :=
  t.heard?.bind ServerMessage.response?

/-- What comes of a turn, if so many payloads have been delivered before. -/
inductive Admission (delivered : Nat) (t : Turn) : Prop where
  | accepted (response : Response) (heard : t.response? = some response)
      (isNext : response.id = delivered) (effects : t.effects = [.deliver response.payload])
  | passedOver (response : Response) (heard : t.response? = some response)
      (isOther : response.id ≠ delivered)
      (effects : t.effects = [.report (.outOfOrder delivered response.id)])
      (same : t.after = t.before)
  | other (unheard : t.response? = none) (nothing : deliveries t.effects = [])

theorem Turn.admitted (t : Turn) : Admission t.before.responseCursor t := by
  have hreply := t.reply
  cases hresponse : t.response? with
  | none => exact .other hresponse (hreply.deliveries_eq_nil hresponse)
  | some response =>
      rw [ServerMessage.response?_eq_some.mp hresponse] at hreply
      rcases hreply.admits with ⟨isNext, heffects⟩ | ⟨isOther, heffects, hsame⟩
      · exact .accepted response hresponse isNext heffects
      · exact .passedOver response hresponse isOther heffects hsame

/-! ## Runs -/

theorem cursor_meetAll (moments : List Moment) (s : Session) :
    (s.meetAll moments).1.responseCursor =
      s.responseCursor + (deliveries (s.meetAll moments).2).length := by
  induction moments generalizing s with
  | nil => rfl
  | cons moment rest ih =>
      rw [meetAll_turn, ih, (reply_turn moment s).cursor, deliveries_append, List.length_append]
      omega

theorem exists_accepted (moments : List Moment) (s : Session) :
    ∃ accepted : List Response, accepted.Sublist ((s.turns moments).filterMap Turn.response?) ∧
      Consecutive s.responseCursor (s.meetAll moments).1.responseCursor accepted ∧
      deliveries (s.meetAll moments).2 = accepted.map Response.payload := by
  induction moments generalizing s with
  | nil => exact ⟨[], by simp [turns], rfl, rfl⟩
  | cons moment rest ih =>
      obtain ⟨accepted, hsublist, hconsecutive, hpayloads⟩ := ih (Turn.mk s moment).after
      rw [(reply_turn moment s).cursor] at hconsecutive
      rw [meetAll_turn, turns_cons, List.filterMap_cons, deliveries_append, hpayloads]
      cases (Turn.mk s moment).admitted with
      | accepted response heard isNext effects =>
          rw [effects] at hconsecutive ⊢
          rw [heard]
          exact ⟨response :: accepted, hsublist.cons_cons response, ⟨isNext, hconsecutive⟩, rfl⟩
      | passedOver response heard isOther effects same =>
          rw [effects] at hconsecutive ⊢
          rw [heard]
          exact ⟨accepted, hsublist.cons response, hconsecutive, rfl⟩
      | other unheard nothing =>
          rw [nothing] at hconsecutive ⊢
          rw [unheard]
          exact ⟨accepted, hsublist, hconsecutive, rfl⟩

/-! ## The end of a connection -/

/-- Whether a line ends the connection that it comes in on. -/
def isFatal (line : Except Frame.Error String) : Bool :=
  match readLine line with
  | .error _ | .ok .failure => true
  | .ok (.success _ _ _) | .ok (.response _) => false

theorem not_live_of_fatal {line : Except Frame.Error String} (hfatal : isFatal line) (s : Session) :
    ¬ (s.meet (.line line)).1.status.live := by
  by_cases hlive : s.status.live
  · have hmeet : s.meet (.line line) = s.takeLine line := if_pos hlive
    rw [hmeet]
    unfold takeLine
    unfold isFatal at hfatal
    split at hfatal
    · next hread => simp [hread, dropConnection_status, Status.live]
    · next hread => simp [hread, handle, refused_of_live hlive, Status.live]
    · contradiction
    · contradiction
  · have hmeet : s.meet (.line line) = (s, []) := if_neg hlive
    rw [hmeet]
    exact hlive

theorem not_live_of_fatal_mem {line : Except Frame.Error String}
    {lines : List (Except Frame.Error String)} (hmem : line ∈ lines) (hfatal : isFatal line)
    (s : Session) : ¬ (s.meetAll (lines.map .line)).1.status.live := by
  induction lines generalizing s with
  | nil => contradiction
  | cons first rest ih =>
      rw [List.map_cons, meetAll_cons]
      rcases List.mem_cons.mp hmem with rfl | hmem
      · have hdown := not_live_of_fatal hfatal s
        rw [meetAll_lines_of_not_live hdown]
        exact hdown
      · exact ih hmem _

theorem received_fatal (hsound : s.buffer.Sound) {fragment : List UInt8}
    {line : Except Frame.Error String}
    (hmem : line ∈ (Frame.Queue.drain (s.buffer.residual ++ fragment)).1) (hfatal : isFatal line)
    (more : List UInt8) :
    ¬ (s.received fragment).1.status.live ∧
      (s.received (fragment ++ more)).2 = (s.received fragment).2 ∧
      (s.received (fragment ++ more)).1.bare = (s.received fragment).1.bare := by
  have hdown : ¬ (s.received fragment).1.status.live := by
    by_cases hlive : s.status.live
    · have houtcome := (received_reads hlive hsound fragment).outcome
      have hlast := not_live_of_fatal_mem hmem hfatal s.bare
      rw [← houtcome] at hlast
      exact hlast
    · rwa [received_of_not_live hlive]
  obtain ⟨heffects, halike⟩ := received_append hsound fragment more
  rw [received_of_not_live hdown] at heffects halike
  rw [List.append_nil] at heffects
  exact ⟨hdown, heffects.symm, halike.bare.symm⟩

/-- Payloads are delivered in the order of their responses, which are those with the numbers 0, 1
and so on, and the cursor counts them.  A response with any other number is reported and leaves the
session as it is.  No message counts that follows one that cannot be read, or one that rejects the
session, in the same fragment. -/
theorem responses_admitted (config : Config) (inputs : List Input) :
    let s := ((new config).steps inputs).1
    let effects := ((new config).steps inputs).2
    let turns := (new config).turnsOf inputs
    effects = turns.flatMap Turn.effects ∧
    s.responseCursor = (deliveries effects).length ∧
    (∃ accepted : List Response, accepted.Sublist (turns.filterMap Turn.response?) ∧
      Consecutive 0 s.responseCursor accepted ∧
      deliveries effects = accepted.map Response.payload) ∧
    (∀ earlier t later, turns = earlier ++ t :: later →
      Admission (deliveries (earlier.flatMap Turn.effects)).length t) ∧
    (∀ later, s.responseCursor ≤ (s.steps later).1.responseCursor) ∧
    ∀ fragment more, ∀ line ∈ (Frame.Queue.drain (s.buffer.residual ++ fragment)).1,
      isFatal line →
      ¬ (s.received fragment).1.status.live ∧
        (s.received (fragment ++ more)).2 = (s.received fragment).2 ∧
        (s.received (fragment ++ more)).1.bare = (s.received fragment).1.bare := by
  intro s effects turns
  have htidy : Tidy s := (Tidy.new config).steps inputs
  obtain ⟨hfinal, heffects⟩ := Prod.mk.inj (steps_new config inputs)
  refine ⟨(effects_turnsOf config inputs).symm, ?_, ?_, ?_, ?_, ?_⟩
  · have hcursor := cursor_meetAll ((new config).history inputs) (new config)
    rw [← hfinal, ← heffects] at hcursor
    exact hcursor.trans (Nat.zero_add _)
  · obtain ⟨accepted, hsublist, hconsecutive, hpayloads⟩ :=
      exists_accepted ((new config).history inputs) (new config)
    rw [← hfinal] at hconsecutive
    rw [← heffects] at hpayloads
    exact ⟨accepted, hsublist, hconsecutive, hpayloads⟩
  · intro earlier t later hsplit
    obtain ⟨first, rest, rfl, hbefore, -, -⟩ := exists_of_turns_eq hsplit
    have hcursor := cursor_meetAll first (new config).bare
    have hadmitted := t.admitted
    rw [hbefore, hcursor, ← effects_turns] at hadmitted
    simpa [new, bare] using hadmitted
  · intro later
    have hlater := congrArg (fun result => result.1.responseCursor) (steps_history htidy later)
    have hcursor := cursor_meetAll (s.history later) s.bare
    simp only [bare] at hlater hcursor
    omega
  · intro fragment more line hmem hfatal
    exact received_fatal htidy.sound hmem hfatal more

end Session

end ResumableSession
