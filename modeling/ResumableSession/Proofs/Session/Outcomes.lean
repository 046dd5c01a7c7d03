import ResumableSession.Proofs.Session.Replies

/-!
What a single moment does to the connection.

A `Met` has the session afterwards and the effects, and it says which of the effects have nothing to
do with the connection.  What does not depend on the messages themselves is shown by cases of it.
-/

namespace ResumableSession

def Effect.silent : Effect → Bool
  | .openTransport | .closeTransport | .send _ => false
  | .scheduleReconnect _ | .stateChanged _ | .deliver _ | .report _ => true

namespace Session

def isWelcome (line : Except Frame.Error String) : Bool :=
  match readLine line with
  | .ok (.success _ _ _) => true
  | .ok .failure | .ok (.response _) | .error _ => false

/-- Whether the session is attached by this moment, or once more. -/
def welcomed (moment : Moment) (s : Session) : Bool :=
  match moment with
  | .line line => s.status.live && isWelcome line
  | .connect | .opened | .lost _ | .request _ => false

inductive Met (s : Session) (moment : Moment) : Session → List Effect → Prop where
  | ignored (plain : s.welcomed moment = false) : Met s moment s []
  | opening (down : s.status = .disconnected) (plain : s.welcomed moment = false) :
      Met s moment
        { s with status := .awaitingConnect, attempts := s.attempts + 1, buffer := .empty }
        [.stateChanged .awaitingConnect, .openTransport]
  | greeted (messages : List ClientMessage) (waiting : s.status = .awaitingConnect)
      (plain : s.welcomed moment = false)
      (openers : ∀ request, .request request ∉ messages) :
      Met s moment { s with status := .connected }
        (messages.map .send ++ [.stateChanged .connected])
  | asked (payload : Json) (plain : s.welcomed moment = false) :
      Met s moment
        { s with
          nextRequestId := s.nextRequestId + 1
          outbox := s.outbox.push ⟨s.nextRequestId, s.responseCursor, payload⟩ }
        (if s.status = .attached then
          [.send (.request ⟨s.nextRequestId, s.responseCursor, payload⟩)] else [])
  | attached (sessionId : String) (requestCursor : Nat) (profile : Profile)
      (changes : List Effect) (welcome : s.welcomed moment = true)
      (silent : ∀ effect ∈ changes, effect.silent) :
      Met s moment
        { s with
          status := .attached, sessionId := some sessionId, profile := some profile
          outbox := s.outbox.dropBelow requestCursor }
        ((s.outbox.dropBelow requestCursor).entries.map (fun entry => .send (.request entry)) ++
          changes)
  | accepted (response : Response) (live : s.status.live) (plain : s.welcomed moment = false)
      (isNext : response.id = s.responseCursor) :
      Met s moment
        { s with
          responseCursor := s.responseCursor + 1
          outbox := s.outbox.dropBelow response.requestCursor }
        [.deliver response.payload]
  | passedOver (response : Response) (live : s.status.live) (plain : s.welcomed moment = false)
      (isOther : response.id ≠ s.responseCursor) :
      Met s moment s [.report (.outOfOrder s.responseCursor response.id)]
  | ended (status : Status) (before after : List Effect) (live : s.status.live)
      (down : ¬ status.live) (plain : s.welcomed moment = false)
      (silentBefore : ∀ effect ∈ before, effect.silent)
      (silentAfter : ∀ effect ∈ after, effect.silent) :
      Met s moment { s with status } (before ++ .closeTransport :: after)

variable {s after : Session} {moment : Moment} {heard : Option ServerMessage}
  {effects : List Effect}

theorem request_not_mem_greeting (request : Request) (s : Session) :
    .request request ∉ s.greeting := by
  unfold greeting opener
  cases s.config.authToken <;> cases s.sessionId <;> simp

theorem welcomed_eq (moment : Moment) (s : Session) :
    s.welcomed moment = (Turn.welcome? ⟨s, moment⟩).isSome := by
  cases moment with
  | line line =>
      by_cases hlive : s.status.live
      · cases hread : readLine line with
        | error error =>
            simp [welcomed, isWelcome, Turn.welcome?, Turn.heard?, hlive, hread, Except.toOption]
        | ok message =>
            cases message <;>
              simp [welcomed, isWelcome, Turn.welcome?, Turn.heard?, hlive, hread,
                Except.toOption, ServerMessage.welcome?]
      · simp [welcomed, Turn.welcome?, Turn.heard?, hlive]
  | connect | opened | lost cause | request payload => rfl

theorem Reply.met (h : Reply s moment heard after effects)
    (hwelcomed : s.welcomed moment = (heard.bind ServerMessage.welcome?).isSome) :
    Met s moment after effects := by
  cases h with
  | ignored unasked => exact .ignored hwelcomed
  | connects down => exact .opening down hwelcomed
  | opens waiting =>
      exact .greeted _ waiting hwelcomed fun request => request_not_mem_greeting request s
  | asks payload => exact .asked payload hwelcomed
  | ends live unasked ending retried =>
      cases ending with
      | rejected => contradiction
      | lost cause | undecodable error =>
          exact .ended .disconnected [_] _ live (by decide) hwelcomed (by simp [Effect.silent])
            (by simp [Effect.silent])
  | succeeds line live sessionId requestCursor profile =>
      refine .attached sessionId requestCursor profile _ hwelcomed ?_
      split <;> simp [Effect.silent]
  | fails line live =>
      exact .ended .rejected [_, _] [] live (by decide) hwelcomed (by simp [Effect.silent])
        (by simp)
  | accepts line live response isNext => exact .accepted response live hwelcomed isNext
  | passesOver line live response isOther => exact .passedOver response live hwelcomed isOther

theorem meet_met (moment : Moment) (s : Session) :
    Met s moment (s.meet moment).1 (s.meet moment).2 :=
  (Turn.mk s moment).reply.met (welcomed_eq moment s)

theorem exists_met (moment : Moment) (s : Session) :
    ∃ after effects, s.meet moment = (after, effects) ∧ Met s moment after effects :=
  ⟨_, _, rfl, meet_met moment s⟩

end Session

end ResumableSession
