import ResumableSession.Proofs.Session.Outcomes

/-!
The connections of a session, and the messages that attach the session on them.

Connections are numbered by how often one was asked for.  A session that has lost its connection
does nothing until it asks for another one, so whatever it sends or takes in belongs to the number
that it counts at that time.
-/

namespace ResumableSession.Session

variable {s after : Session} {moment : Moment} {effects : List Effect}

/-! ## Numbers of connections -/

theorem live_of_welcomed (h : s.welcomed moment) : s.status.live := by
  cases moment with
  | line line => exact (Bool.and_eq_true_iff.mp h).1
  | connect | opened | lost cause | request payload => contradiction

theorem Met.attempts_le (h : Met s moment after effects) : s.attempts ≤ after.attempts := by
  cases h with
  | opening down plain => exact Nat.le_succ _
  | ignored plain | greeted messages waiting plain openers | asked payload plain
  | attached sessionId requestCursor profile changes welcome silent
  | accepted response live plain isNext | passedOver response live plain isOther
  | ended status before after live down plain silentBefore silentAfter => exact Nat.le_refl _

theorem Met.attempts_eq (h : Met s moment after effects) (hlive : s.status.live) :
    after.attempts = s.attempts := by
  cases h with
  | opening down plain =>
      rw [down] at hlive
      contradiction
  | ignored plain | greeted messages waiting plain openers | asked payload plain
  | attached sessionId requestCursor profile changes welcome silent
  | accepted response live plain isNext | passedOver response live plain isOther
  | ended status before after live down plain silentBefore silentAfter => rfl

theorem attempts_le_meetAll (moments : List Moment) (s : Session) :
    s.attempts ≤ (s.meetAll moments).1.attempts := by
  induction moments generalizing s with
  | nil => exact Nat.le_refl _
  | cons moment rest ih => exact Nat.le_trans (meet_met moment s).attempts_le (ih _)

theorem Met.revived (h : Met s moment after effects) (hdown : ¬ s.status.live)
    (hlive : after.status.live) : s.attempts < after.attempts := by
  cases h with
  | opening down plain => exact Nat.lt_succ_self _
  | ignored plain | asked payload plain => exact absurd hlive hdown
  | greeted messages waiting plain openers =>
      rw [waiting] at hdown
      exact absurd rfl hdown
  | attached sessionId requestCursor profile changes welcome silent =>
      exact absurd (live_of_welcomed welcome) hdown
  | accepted response live plain isNext | passedOver response live plain isOther
  | ended status before after live down plain silentBefore silentAfter => exact absurd live hdown

theorem revived_meetAll {moments : List Moment} (hdown : ¬ s.status.live)
    (hlive : (s.meetAll moments).1.status.live) : s.attempts < (s.meetAll moments).1.attempts := by
  induction moments generalizing s with
  | nil => exact absurd hlive hdown
  | cons moment rest ih =>
      have hmet := meet_met moment s
      by_cases hback : (s.meet moment).1.status.live
      · exact Nat.lt_of_lt_of_le (hmet.revived hdown hback) (attempts_le_meetAll rest _)
      · exact Nat.lt_of_le_of_lt hmet.attempts_le (ih hback hlive)

/-! ## Effects on connections -/

theorem open_not_mem_of_silent {effects : List Effect} (h : ∀ effect ∈ effects, effect.silent) :
    Effect.openTransport ∉ effects :=
  fun hmem => Bool.false_ne_true (h _ hmem)

theorem close_not_mem_of_silent {effects : List Effect} (h : ∀ effect ∈ effects, effect.silent) :
    Effect.closeTransport ∉ effects :=
  fun hmem => Bool.false_ne_true (h _ hmem)

theorem Met.count_open (h : Met s moment after effects) :
    s.attempts + effects.count .openTransport = after.attempts := by
  have hsends (messages : List ClientMessage) :
      Effect.openTransport ∉ messages.map Effect.send := by simp
  cases h with
  | ignored plain | opening down plain | accepted response live plain isNext
  | passedOver response live plain isOther => rfl
  | greeted messages waiting plain openers =>
      rw [List.count_append, List.count_eq_zero_of_not_mem (hsends messages)]
      rfl
  | asked payload plain => split <;> rfl
  | attached sessionId requestCursor profile changes welcome silent =>
      rw [List.count_append, List.count_eq_zero_of_not_mem (by simp),
        List.count_eq_zero_of_not_mem (open_not_mem_of_silent silent)]
      rfl
  | ended status before after live down plain silentBefore silentAfter =>
      rw [List.count_append, List.count_cons_of_ne (by simp),
        List.count_eq_zero_of_not_mem (open_not_mem_of_silent silentBefore),
        List.count_eq_zero_of_not_mem (open_not_mem_of_silent silentAfter)]
      rfl

theorem count_open_meetAll (moments : List Moment) (s : Session) :
    s.attempts + (s.meetAll moments).2.count .openTransport = (s.meetAll moments).1.attempts := by
  induction moments generalizing s with
  | nil => rfl
  | cons moment rest ih =>
      rw [meetAll_cons, List.count_append, ← Nat.add_assoc, (meet_met moment s).count_open, ih]

/-! ## Welcomes -/

/-- The session right after each message that attached it. -/
def welcomes (moments : List Moment) (s : Session) : List Session :=
  match moments with
  | [] => []
  | moment :: rest =>
      let after := (s.meet moment).1
      (if s.welcomed moment then [after] else []) ++ after.welcomes rest

theorem welcomes_append (first second : List Moment) (s : Session) :
    s.welcomes (first ++ second) = s.welcomes first ++ (s.meetAll first).1.welcomes second := by
  induction first generalizing s with
  | nil => rfl
  | cons moment rest ih =>
      rw [List.cons_append, welcomes, welcomes, ih, List.append_assoc]
      rfl

theorem Met.attached_of_welcomed (h : Met s moment after effects) (hwelcome : s.welcomed moment) :
    after.status = .attached := by
  cases h <;> simp_all

theorem exists_of_mem_welcomes {moments : List Moment} {welcome : Session}
    (h : welcome ∈ s.welcomes moments) :
    ∃ front, front <+: moments ∧ welcome = (s.meetAll front).1 ∧ welcome.status = .attached := by
  induction moments generalizing s with
  | nil => contradiction
  | cons moment rest ih =>
      rcases List.mem_append.mp h with h | h
      · split at h
        · next hwelcome =>
            obtain rfl := List.mem_singleton.mp h
            have hmet := meet_met moment s
            exact ⟨[moment], by simp, rfl, hmet.attached_of_welcomed hwelcome⟩
        · contradiction
      · obtain ⟨front, hfront, rfl, hstatus⟩ := ih h
        exact ⟨moment :: front, List.cons_prefix_cons.mpr ⟨rfl, hfront⟩, rfl, hstatus⟩

theorem lt_attempts_of_mem_welcomes {moments : List Moment} {welcome : Session}
    (hdown : ¬ s.status.live) (h : welcome ∈ s.welcomes moments) :
    s.attempts < welcome.attempts := by
  obtain ⟨front, -, rfl, hattached⟩ := exists_of_mem_welcomes h
  refine revived_meetAll hdown ?_
  rw [hattached]
  rfl

theorem attempts_mem_welcomes {moments : List Moment} {welcome : Session}
    (h : welcome ∈ s.welcomes moments) :
    s.attempts ≤ welcome.attempts ∧ welcome.attempts ≤ (s.meetAll moments).1.attempts := by
  obtain ⟨front, ⟨rest, rfl⟩, rfl, -⟩ := exists_of_mem_welcomes h
  rw [meetAll_append]
  exact ⟨attempts_le_meetAll front s, attempts_le_meetAll rest _⟩

theorem filter_welcomes_eq_nil {connection : Nat} (hreached : connection ≤ s.attempts)
    (hover : ¬ (s.status.live ∧ s.attempts = connection)) (moments : List Moment) :
    (s.welcomes moments).filter (·.attempts = connection) = [] := by
  refine List.filter_eq_nil_iff.mpr fun welcome hmem => ?_
  have hne : welcome.attempts ≠ connection := by
    by_cases hlive : s.status.live
    · have hother : s.attempts ≠ connection := fun heq => hover ⟨hlive, heq⟩
      have hle := (attempts_mem_welcomes hmem).1
      omega
    · have hlt := lt_attempts_of_mem_welcomes hlive hmem
      omega
  simpa using hne

/-! ## Inputs -/

def history (inputs : List Input) (s : Session) : List Moment :=
  match inputs with
  | [] => []
  | input :: rest => s.moments input ++ (s.step input).1.history rest

theorem steps_history (h : Tidy s) (inputs : List Input) :
    ((s.steps inputs).1.bare, (s.steps inputs).2) = s.bare.meetAll (s.history inputs) := by
  induction inputs generalizing s with
  | nil => rfl
  | cons input rest ih =>
      rw [history, meetAll_append, ← step_moments h.sound input, ← ih (h.step input)]
      rfl

def welcomesOn (connection : Nat) (inputs : List Input) (s : Session) : List Session :=
  (s.bare.welcomes (s.history inputs)).filter (·.attempts = connection)

/-- The bytes that an input brings in on a connection, if the session is listening to it. -/
def incoming (connection : Nat) (input : Input) (s : Session) : List UInt8 :=
  match input with
  | .received fragment => if s.status.live ∧ s.attempts = connection then fragment else []
  | .start | .connect | .opened | .lost _ | .request _ => []

def inbound (connection : Nat) (inputs : List Input) (s : Session) : List UInt8 :=
  match inputs with
  | [] => []
  | input :: rest => s.incoming connection input ++ (s.step input).1.inbound connection rest

theorem attempts_le_steps (h : Tidy s) (inputs : List Input) :
    s.attempts ≤ (s.steps inputs).1.attempts := by
  have hattempts : (s.steps inputs).1.attempts =
      (s.bare.meetAll (s.history inputs)).1.attempts := by
    rw [← steps_history h inputs]
    rfl
  rw [hattempts]
  exact attempts_le_meetAll _ s.bare

theorem inbound_eq_nil (h : Tidy s) {connection : Nat} {inputs : List Input}
    (hunused : (s.steps inputs).1.attempts < connection) : s.inbound connection inputs = [] := by
  induction inputs generalizing s with
  | nil => rfl
  | cons input rest ih =>
      have hother : s.attempts ≠ connection :=
        Nat.ne_of_lt (Nat.lt_of_le_of_lt (attempts_le_steps h (input :: rest)) hunused)
      rw [inbound, ih (h.step input) hunused, List.append_nil]
      cases input with
      | received fragment => exact if_neg fun hcurrent => hother hcurrent.2
      | start | connect | opened | lost cause | request payload => rfl

/-- How many of the messages in some bytes tell the client that it is in a session. -/
def successes (bytes : List UInt8) : Nat :=
  (Frame.Queue.drain bytes).1.countP isWelcome

theorem successes_append (first second : List UInt8) :
    successes (first ++ second) =
      (Frame.Queue.drain first).1.countP isWelcome +
        successes ((Frame.Queue.drain first).2 ++ second) := by
  rw [successes, Frame.Queue.drain_append, List.countP_append]
  rfl

theorem length_welcomes_lines_le (lines : List (Except Frame.Error String)) (s : Session) :
    (s.welcomes (lines.map .line)).length ≤ lines.countP isWelcome := by
  induction lines generalizing s with
  | nil => exact Nat.le_refl _
  | cons line rest ih =>
      rw [List.map_cons, welcomes, List.length_append, List.countP_cons, Nat.add_comm]
      refine Nat.add_le_add (ih _) ?_
      by_cases hwelcome : isWelcome line
      · rw [if_pos hwelcome]
        split <;> simp
      · simp [welcomed, hwelcome]

/-! ## Welcomes are messages that came in -/

variable {connection : Nat}

theorem attempts_meetAll_lines (lines : List (Except Frame.Error String)) (s : Session) :
    (s.meetAll (lines.map .line)).1.attempts = s.attempts := by
  induction lines generalizing s with
  | nil => rfl
  | cons line rest ih =>
      rw [List.map_cons, meetAll_cons, ih]
      by_cases hlive : s.status.live
      · exact (meet_met (.line line) s).attempts_eq hlive
      · rw [meet, if_neg hlive]

theorem attempts_step (h : Tidy s) (hlive : s.status.live) (input : Input) :
    (s.step input).1.attempts = s.attempts := by
  have hattempts : (s.step input).1.attempts = (s.bare.meetAll (s.moments input)).1.attempts := by
    rw [← step_moments h.sound input]
    rfl
  rw [hattempts]
  have hsingle (moment : Moment) : (s.bare.meetAll [moment]).1.attempts = s.attempts :=
    (meet_met moment s.bare).attempts_eq hlive
  cases input with
  | received fragment =>
      rw [moments, if_pos hlive]
      exact attempts_meetAll_lines _ _
  | start | connect | opened | lost cause | request payload => exact hsingle _

def unreadOn (connection : Nat) (s : Session) : List UInt8 :=
  if s.status.live ∧ s.attempts = connection then s.buffer.residual else []

theorem unreadOn_incoming_eq_nil (hother : ¬ (s.status.live ∧ s.attempts = connection))
    (input : Input) : s.unreadOn connection ++ s.incoming connection input = [] := by
  rw [unreadOn, if_neg hother, List.nil_append]
  cases input with
  | received fragment => exact if_neg hother
  | start | connect | opened | lost cause | request payload => rfl

theorem unreadOn_step (h : Tidy s) (input : Input)
    (hcurrent : (s.step input).1.status.live ∧ (s.step input).1.attempts = connection) :
    (s.step input).1.unreadOn connection =
      (Frame.Queue.drain (s.unreadOn connection ++ s.incoming connection input)).2 := by
  have hunread := (step_leaves h.sound input).unread hcurrent.1
  rw [unreadOn, if_pos hcurrent, hunread]
  by_cases hlive : s.status.live
  · have hbefore : s.status.live ∧ s.attempts = connection :=
      ⟨hlive, attempts_step h hlive input ▸ hcurrent.2⟩
    have hopen := Frame.Queue.drain_none (Frame.Queue.next_of_not_mem (h.open_ended hlive))
    rw [unreadOn, if_pos hbefore]
    cases input with
    | received fragment => rw [unreadAfter, if_pos hlive, incoming, if_pos hbefore]
    | start | connect | opened | lost cause | request payload =>
        rw [unreadAfter, if_pos hlive, incoming, List.append_nil, hopen]
  · have hbefore : ¬ (s.status.live ∧ s.attempts = connection) := fun hboth => hlive hboth.1
    have hnone : s.unreadAfter input = [] := by
      unfold unreadAfter
      exact if_neg hlive
    rw [hnone, unreadOn_incoming_eq_nil hbefore, Frame.Queue.drain_nil]

theorem length_welcomes_moments_le (connection : Nat) (input : Input) (s : Session) :
    ((s.bare.welcomes (s.moments input)).filter (·.attempts = connection)).length ≤
      (Frame.Queue.drain (s.unreadOn connection ++ s.incoming connection input)).1.countP
        isWelcome := by
  have hnone (hwelcomes : (s.bare.welcomes (s.moments input)).filter
      (·.attempts = connection) = []) :
      ((s.bare.welcomes (s.moments input)).filter (·.attempts = connection)).length ≤
        (Frame.Queue.drain (s.unreadOn connection ++ s.incoming connection input)).1.countP
          isWelcome := by
    rw [hwelcomes]
    exact Nat.zero_le _
  cases input with
  | start | connect | opened | lost cause | request payload => exact hnone rfl
  | received fragment =>
      by_cases hlive : s.status.live
      · by_cases hcurrent : s.attempts = connection
        · rw [unreadOn, incoming, if_pos ⟨hlive, hcurrent⟩, if_pos ⟨hlive, hcurrent⟩, moments,
            if_pos hlive]
          exact Nat.le_trans (List.length_filter_le _ _) (length_welcomes_lines_le _ _)
        · refine hnone (List.filter_eq_nil_iff.mpr fun welcome hmem => ?_)
          have hbounds := attempts_mem_welcomes hmem
          rw [moments, if_pos hlive, attempts_meetAll_lines] at hbounds
          have heq : welcome.attempts = s.attempts := Nat.le_antisymm hbounds.2 hbounds.1
          simpa [heq] using hcurrent
      · refine hnone ?_
        rw [moments, if_neg hlive]
        rfl

theorem length_welcomesOn_le (h : Tidy s) (inputs : List Input) :
    (s.welcomesOn connection inputs).length ≤
      successes (s.unreadOn connection ++ s.inbound connection inputs) := by
  induction inputs generalizing s with
  | nil => exact Nat.zero_le _
  | cons input rest ih =>
      have hsplit : s.welcomesOn connection (input :: rest) =
          (s.bare.welcomes (s.moments input)).filter (·.attempts = connection) ++
            (s.step input).1.welcomesOn connection rest := by
        rw [welcomesOn, history, welcomes_append, List.filter_append, ← step_moments h.sound input]
        rfl
      have hfirst := length_welcomes_moments_le connection input s
      have hlater := ih (h.step input)
      rw [hsplit, List.length_append, inbound, ← List.append_assoc, successes_append]
      refine Nat.add_le_add hfirst ?_
      by_cases hcurrent : (s.step input).1.status.live ∧ (s.step input).1.attempts = connection
      · rwa [unreadOn_step h input hcurrent] at hlater
      · by_cases hreached : connection ≤ (s.step input).1.attempts
        · have hover : (s.step input).1.welcomesOn connection rest = [] :=
            filter_welcomes_eq_nil (s := (s.step input).1.bare) hreached hcurrent _
          rw [hover]
          exact Nat.zero_le _
        · -- The connection is still to come.
          have hearlier : ¬ (s.status.live ∧ s.attempts = connection) := by
            rintro ⟨hlive, hcurrent⟩
            exact hreached (Nat.le_of_eq (hcurrent.symm.trans (attempts_step h hlive input).symm))
          rw [unreadOn, if_neg hcurrent] at hlater
          rwa [unreadOn_incoming_eq_nil hearlier, Frame.Queue.drain_nil]

end ResumableSession.Session
