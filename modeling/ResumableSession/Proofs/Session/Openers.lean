import ResumableSession.Proofs.Session.Deliveries
import ResumableSession.Proofs.Session.Graph

/-!
What a connection begins with.

As soon as a connection is open, the session says who it is: it sends the token that it is
configured with, and then asks for a new session, or for the last one in which it has been
welcomed.  After that it sends requests only, and these not before it has been welcomed again.

A message that comes in before the connection is open may attach the session, and then no opener is
sent at all.  So all of this is about inputs that are `Orderly`.
-/

namespace ResumableSession

namespace Session

variable {s after : Session} {moment : Moment} {heard : Option ServerMessage}
  {effects : List Effect} {config : Config}

/-! ## What an opener is made of -/

def resumption (before : List Turn) : ClientMessage :=
  match (before.filterMap Turn.welcome?).getLast? with
  | none => .createSession
  | some sessionId => .attach sessionId (deliveries (before.flatMap Turn.effects)).length

/-- The session remembers which session it was last welcomed to, and how much it has delivered. -/
structure Recalls (config : Config) (before : List Turn) (s : Session) : Prop where
  config : s.config = config
  sessionId : s.sessionId = (before.filterMap Turn.welcome?).getLast?
  cursor : s.responseCursor = (deliveries (before.flatMap Turn.effects)).length

theorem Recalls.new (config : Config) : Recalls config [] (new config) :=
  ⟨rfl, rfl, rfl⟩

theorem Recalls.greeting {before : List Turn} (h : Recalls config before s) :
    s.greeting = (config.authToken.map ClientMessage.auth).toList ++ [resumption before] := by
  cases hlast : (before.filterMap Turn.welcome?).getLast? with
  | none => simp [Session.greeting, opener, resumption, h.config, h.sessionId, hlast]
  | some sessionId =>
      simp [Session.greeting, opener, resumption, h.config, h.sessionId, h.cursor, hlast]

theorem Reply.sessionId (h : Reply s moment heard after effects) :
    after.sessionId = (heard.bind ServerMessage.welcome?).or s.sessionId := by
  cases h <;> rfl

theorem Recalls.turn {before : List Turn} {t : Turn} (h : Recalls config before t.before) :
    Recalls config (before ++ [t]) t.after where
  config := (meet_met t.moment t.before).config.trans h.config
  sessionId := by
    rw [t.reply.sessionId, h.sessionId, List.filterMap_append, List.getLast?_append]
    cases hwelcome : t.welcome? <;> simp_all [Turn.welcome?]
  cursor := by simp [t.reply.cursor, h.cursor]

theorem Recalls.meetAll {before : List Turn} (h : Recalls config before s)
    (moments : List Moment) :
    Recalls config (before ++ s.turns moments) (s.meetAll moments).1 := by
  induction moments generalizing s before with
  | nil => simpa [turns, Session.meetAll] using h
  | cons moment rest ih =>
      have hturn : Recalls config (before ++ [⟨s, moment⟩]) (Turn.mk s moment).after := h.turn
      simpa [turns_cons, meetAll_turn] using ih hturn

/-! ## A connection -/

/-- Nothing is sent, and no connection is opened successfully. -/
structure Turn.Quiet (t : Turn) : Prop where
  unsent : ∀ message, .send message ∉ t.effects
  unopened : .stateChanged .connected ∉ t.effects

/-- Nothing is sent but requests, and these only once the session has been welcomed. -/
def OnlyRequests (welcomed : Bool) (turns : List Turn) : Prop :=
  match turns with
  | [] => True
  | t :: later =>
      (∀ message, .send message ∈ t.effects →
        (welcomed ∨ t.welcome?.isSome) ∧ ∃ request, message = .request request) ∧
      OnlyRequests (welcomed || t.welcome?.isSome) later

/-- What is sent in the turns of a connection, if these have been the turns before it. -/
inductive Introduced (config : Config) (before : List Turn) : List Turn → Prop where
  | unopened {on : List Turn} (quiet : ∀ t ∈ on, t.Quiet) : Introduced config before on
  | opened {idle later : List Turn} {opening : Turn} (quiet : ∀ t ∈ idle, t.Quiet)
      (effects : opening.effects =
        ((config.authToken.map ClientMessage.auth).toList ++ [resumption (before ++ idle)]).map
          .send ++ [.stateChanged .connected])
      (requests : OnlyRequests false later) : Introduced config before (idle ++ opening :: later)

theorem Introduced.cons {before on : List Turn} {t : Turn} (hquiet : t.Quiet)
    (h : Introduced config (before ++ [t]) on) : Introduced config before (t :: on) := by
  have hcons {others : List Turn} (hothers : ∀ other ∈ others, other.Quiet) :
      ∀ other ∈ t :: others, other.Quiet := by
    intro other hmem
    rcases List.mem_cons.mp hmem with rfl | hmem
    · exact hquiet
    · exact hothers other hmem
  cases h with
  | unopened quiet => exact .unopened (hcons quiet)
  | opened quiet effects requests =>
      refine .opened (hcons quiet) ?_ requests
      rw [effects, List.append_assoc, List.singleton_append]

/-! ## Runs without another connection -/

theorem Reply.requests (h : Reply s moment heard after effects)
    (hopen : s.status ≠ .awaitingConnect) (hsame : .openTransport ∉ effects) :
    after.status ≠ .awaitingConnect ∧
      (after.status = .attached →
        s.status = .attached ∨ (heard.bind ServerMessage.welcome?).isSome) ∧
      ∀ message, .send message ∈ effects →
        (s.status = .attached ∨ (heard.bind ServerMessage.welcome?).isSome) ∧
          ∃ request, message = .request request := by
  cases h with
  | connects down => simp at hsame
  | opens waiting => contradiction
  | ends live unasked ending retried =>
      cases ending <;> simp_all [Ending.effects]
  | asks payload =>
      refine ⟨hopen, .inl, fun message hmem => ?_⟩
      split at hmem
      · next hattached => exact ⟨.inl hattached, _, by simpa using hmem⟩
      · contradiction
  | succeeds line live sessionId requestCursor profile =>
      refine ⟨by simp, fun _ => .inr rfl, fun message hmem => ⟨.inr rfl, ?_⟩⟩
      rcases List.mem_append.mp hmem with hmem | hmem
      · obtain ⟨request, -, hrequest⟩ := List.mem_map.mp hmem
        exact ⟨request, (Effect.send.inj hrequest).symm⟩
      · split at hmem <;> simp at hmem
  | fails line live => simp [Ending.effects]
  | ignored unasked | accepts line live response isNext
  | passesOver line live response isOther =>
      exact ⟨hopen, .inl, by simp⟩

theorem Reply.waiting (h : Reply s moment heard after effects)
    (hwaiting : s.status = .awaitingConnect) (hunheard : ¬ moment.isLine) :
    (effects = [] ∧ after.status = .awaitingConnect) ∨
      (effects = s.greeting.map .send ++ [.stateChanged .connected] ∧ after.status = .connected) ∨
      (∀ message, .send message ∉ effects) ∧ .stateChanged .connected ∉ effects ∧
        ¬ after.status.live := by
  cases h with
  | ignored unasked => exact .inl ⟨rfl, hwaiting⟩
  | connects down => simp [hwaiting] at down
  | opens waiting => exact .inr (.inl ⟨rfl, rfl⟩)
  | asks payload => exact .inl ⟨by simp [hwaiting], hwaiting⟩
  | ends live unasked ending retried =>
      right
      right
      cases ending <;> simp_all [Ending.effects, Ending.status, Status.live]
  | succeeds line live sessionId requestCursor profile | fails line live
  | accepts line live response isNext | passesOver line live response isOther =>
      exact absurd rfl hunheard

section

variable {moments : List Moment} (hsame : ∀ t ∈ s.turns moments, .openTransport ∉ t.effects)

include hsame

end

/-! ## Timely messages -/

instance Orderly.decidable : (inputs : List Input) → (s : Session) → Decidable (s.Orderly inputs)
  | [], _ => inferInstanceAs (Decidable True)
  | input :: rest, s =>
      have := Orderly.decidable rest (s.step input).1
      inferInstanceAs
        (Decidable (¬ (s.status = .awaitingConnect ∧ input.isFragment) ∧
          (s.step input).1.Orderly rest))

end Session

end ResumableSession
