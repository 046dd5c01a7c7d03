import ResumableSession.Proofs.Session.Outcomes

/-!
Statuses, and what is told about them.

A `Change` is what a single moment does to the status of a session, with all effects in their order.
It says nothing of numbers and outboxes, for which there is `Met`.
-/

namespace ResumableSession

/-- Whether an effect leaves both the status and the connection as they are. -/
def Effect.talk : Effect → Bool
  | .send _ | .deliver _ | .report (.outOfOrder _ _) => true
  | .openTransport | .closeTransport | .scheduleReconnect _ | .stateChanged _
  | .report (.transport _) | .report (.undecodable _) | .report .rejected => false

def Moment.isLine : Moment → Bool
  | .line _ => true
  | .connect | .opened | .lost _ | .request _ => false

inductive Change (delay : Nat) (moment : Moment) : Status → Status → List Effect → Prop where
  | idles (status : Status) : Change delay moment status status []
  | talks {status : Status} (live : status.live) (talk : List Effect)
      (plain : ∀ effect ∈ talk, effect.talk) : Change delay moment status status talk
  | opens (unheard : moment.isLine = false) :
      Change delay moment .disconnected .awaitingConnect
        [.stateChanged .awaitingConnect, .openTransport]
  | connects (opened : moment = .opened) (talk : List Effect)
      (plain : ∀ effect ∈ talk, effect.talk) :
      Change delay moment .awaitingConnect .connected (talk ++ [.stateChanged .connected])
  | attaches {status : Status} (fresh : status = .awaitingConnect ∨ status = .connected)
      (talk : List Effect) (plain : ∀ effect ∈ talk, effect.talk) (heard : moment.isLine) :
      Change delay moment status .attached (talk ++ [.stateChanged .attached])
  | ends {status : Status} (live : status.live) (ending : Ending)
      (heard : ending = .rejected → moment.isLine) :
      Change delay moment status ending.status (ending.effects delay)

namespace Session

variable {s after : Session} {moment : Moment} {heard : Option ServerMessage}
  {effects : List Effect}

theorem Reply.change (h : Reply s moment heard after effects) :
    Change s.config.reconnectDelay moment s.status after.status effects := by
  cases h with
  | ignored unasked => exact .idles _
  | connects down =>
      rw [down]
      exact .opens rfl
  | opens waiting =>
      rw [waiting]
      exact .connects rfl _ (by simp [Effect.talk])
  | asks payload =>
      by_cases hattached : s.status = .attached
      · rw [if_pos hattached]
        exact .talks (by simp [hattached, Status.live]) _ (by simp [Effect.talk])
      · rw [if_neg hattached]
        exact .idles _
  | ends live unasked ending retried =>
      have hchange : Change s.config.reconnectDelay moment s.status ending.status
          (ending.effects s.config.reconnectDelay) := by
        refine .ends live ending ?_
        rintro rfl
        contradiction
      rwa [retried] at hchange
  | succeeds line live sessionId requestCursor profile =>
      have hsends : ∀ effect ∈ (s.outbox.dropBelow requestCursor).entries.map
          (fun entry => Effect.send (.request entry)), effect.talk := by
        simp [Effect.talk]
      by_cases hattached : s.status = .attached
      · rw [if_pos hattached, List.append_nil, hattached]
        exact .talks rfl _ hsends
      · rw [if_neg hattached]
        refine .attaches ?_ _ hsends rfl
        cases hstatus : s.status <;> simp_all [Status.live]
  | fails line live => exact .ends live .rejected fun _ => rfl
  | accepts line live response isNext | passesOver line live response isOther =>
      exact .talks live _ (by simp [Effect.talk])

theorem meet_change (moment : Moment) (s : Session) :
    Change s.config.reconnectDelay moment s.status (s.meet moment).1.status (s.meet moment).2 :=
  (Turn.mk s moment).reply.change

theorem Met.config {moment : Moment} {after : Session} {effects : List Effect}
    (h : Met s moment after effects) : after.config = s.config := by
  cases h <;> rfl

end Session

end ResumableSession
