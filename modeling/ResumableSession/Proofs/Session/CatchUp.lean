import ResumableSession.Proofs.Outbox.Consecutive
import ResumableSession.Proofs.Session.Welcomes

/-!
The requests that are sent on a connection.

Until the session is attached on it, a connection carries no request.  Then come all requests that
are still pending, and after them each new one at once.  So their numbers follow one another, as
long as the session is attached only once on the connection.
-/

namespace ResumableSession

def sent (effects : List Effect) : List ClientMessage :=
  match effects with
  | [] => []
  | .closeTransport :: _ => []
  | .send message :: rest => message :: sent rest
  | .openTransport :: rest | .scheduleReconnect _ :: rest | .stateChanged _ :: rest
  | .deliver _ :: rest | .report _ :: rest => sent rest

theorem sent_sends (messages : List ClientMessage) (effects : List Effect) :
    sent (messages.map .send ++ effects) = messages ++ sent effects := by
  induction messages with
  | nil => rfl
  | cons message rest ih => rw [List.map_cons, List.cons_append, sent, ih, List.cons_append]

theorem sent_silent {silent : List Effect} (h : ∀ effect ∈ silent, effect.silent)
    (effects : List Effect) : sent (silent ++ effects) = sent effects := by
  induction silent with
  | nil => rfl
  | cons effect rest ih =>
      have hrest := ih fun other hmem => h other (List.mem_cons_of_mem _ hmem)
      have heffect := h effect List.mem_cons_self
      cases effect with
      | openTransport | closeTransport | send message => contradiction
      | scheduleReconnect delay | stateChanged status | deliver payload | report error =>
          exact hrest

theorem sent_prefix {first second : List Effect} : sent first <+: sent (first ++ second) := by
  induction first with
  | nil => exact List.nil_prefix
  | cons effect rest ih =>
      cases effect with
      | closeTransport => exact List.prefix_rfl
      | send message => exact List.cons_prefix_cons.mpr ⟨rfl, ih⟩
      | openTransport | scheduleReconnect delay | stateChanged status | deliver payload
      | report error => exact ih

namespace Session

variable {s after : Session} {moment : Moment} {effects : List Effect}

/-! ## Pending requests -/

/-- The number of the first request that the other side may not have dealt with. -/
def firstPending (s : Session) : Nat :=
  (s.outbox.entries.map Request.id).min?.getD s.nextRequestId

theorem firstPending_eq {first : Nat} (h : Consecutive first s.nextRequestId s.outbox.entries) :
    s.firstPending = first := by
  unfold firstPending
  cases hentries : s.outbox.entries with
  | nil =>
      rw [hentries] at h
      exact h.symm
  | cons entry rest =>
      rw [hentries] at h
      have hmin : ((entry :: rest).map Request.id).min? = some first := by
        refine List.min?_eq_some_iff.mpr ⟨?_, fun id hid => ?_⟩
        · exact List.mem_map.mpr ⟨entry, List.mem_cons_self, h.1⟩
        · obtain ⟨other, hmem, rfl⟩ := List.mem_map.mp hid
          exact h.le_of_mem hmem
      rw [hmin]
      rfl

def Numbered (s : Session) : Prop :=
  Consecutive s.firstPending s.nextRequestId s.outbox.entries

theorem Numbered.of_consecutive {first : Nat}
    (h : Consecutive first s.nextRequestId s.outbox.entries) : s.Numbered := by
  rwa [Numbered, firstPending_eq h]

theorem Numbered.of_dropBelow (h : s.Numbered) {threshold : Nat}
    (hnext : after.nextRequestId = s.nextRequestId)
    (houtbox : after.outbox = s.outbox.dropBelow threshold) : after.Numbered := by
  obtain ⟨later, hlater⟩ := h.exists_dropBelow threshold
  rw [← hnext, ← houtbox] at hlater
  exact .of_consecutive hlater

theorem Met.numbered (hmet : Met s moment after effects) (h : s.Numbered) : after.Numbered := by
  cases hmet with
  | asked payload plain => exact .of_consecutive (Consecutive.push h rfl)
  | attached sessionId requestCursor profile changes welcome silent =>
      exact h.of_dropBelow rfl rfl
  | accepted response live plain isNext => exact h.of_dropBelow rfl rfl
  | ignored plain | opening down plain | greeted messages waiting plain openers
  | passedOver response live plain isOther
  | ended status before after live down plain silentBefore silentAfter => exact h

theorem Numbered.meetAll (h : s.Numbered) (moments : List Moment) :
    (s.meetAll moments).1.Numbered := by
  induction moments generalizing s with
  | nil => exact h
  | cons moment rest ih => exact ih ((meet_met moment s).numbered h)

/-! ## From some moment on -/

/-- What is sent to the end of a connection on which the session is attached already. -/
structure Continues (s final : Session) (effects : List Effect) (requests : List Request) : Prop
    where
  sent : sent effects = requests.map .request
  consecutive : Consecutive s.nextRequestId (s.nextRequestId + requests.length) requests
  current : final.status.live → final.attempts = s.attempts →
    .closeTransport ∉ effects ∧ s.nextRequestId + requests.length = final.nextRequestId ∧
      ∀ entry ∈ final.outbox.entries, entry ∈ s.outbox.entries ∨ entry ∈ requests

theorem Continues.meanwhile {final : Session} {more : List Effect} {requests : List Request}
    (h : Continues after final more requests) (hsilent : ∀ effect ∈ effects, effect.silent)
    (hattempts : after.attempts = s.attempts) (hnext : after.nextRequestId = s.nextRequestId)
    (houtbox : ∀ entry ∈ after.outbox.entries, entry ∈ s.outbox.entries) :
    Continues s final (effects ++ more) requests where
  sent := by rw [sent_silent hsilent, h.sent]
  consecutive := hnext ▸ h.consecutive
  current hlive hfinal := by
    obtain ⟨hopen, hlast, hentries⟩ := h.current hlive (hfinal.trans hattempts.symm)
    refine ⟨?_, hnext ▸ hlast, fun entry hmem => (hentries entry hmem).imp_left (houtbox entry)⟩
    rw [List.mem_append, not_or]
    exact ⟨close_not_mem_of_silent hsilent, hopen⟩

theorem Continues.asked {final : Session} {more : List Effect} {requests : List Request}
    {request : Request} (h : Continues after final more requests)
    (hid : request.id = s.nextRequestId) (hattempts : after.attempts = s.attempts)
    (hnext : after.nextRequestId = s.nextRequestId + 1)
    (houtbox : after.outbox = s.outbox.push request) :
    Continues s final (.send (.request request) :: more) (request :: requests) where
  sent := congrArg (ClientMessage.request request :: ·) h.sent
  consecutive := by
    have hrest := h.consecutive
    rw [hnext] at hrest
    rw [List.length_cons, Nat.add_comm requests.length, ← Nat.add_assoc]
    exact ⟨hid, hrest⟩
  current hlive hfinal := by
    obtain ⟨hopen, hlast, hentries⟩ := h.current hlive (hfinal.trans hattempts.symm)
    refine ⟨?_, ?_, fun entry hmem => ?_⟩
    · simpa using hopen
    · rw [List.length_cons]
      omega
    · rcases hentries entry hmem with hmem | hmem
      · rw [houtbox] at hmem
        rcases List.mem_append.mp hmem with hmem | hmem
        · exact .inl hmem
        · exact .inr (List.mem_singleton.mp hmem ▸ List.mem_cons_self)
      · exact .inr (List.mem_cons_of_mem _ hmem)

theorem Continues.closed {moments : List Moment} {closing : List Effect}
    (hdown : ¬ after.status.live) (hattempts : after.attempts = s.attempts)
    (hsilent : ∀ effect ∈ effects, effect.silent) :
    Continues s (after.meetAll moments).1 (effects ++ .closeTransport :: closing) [] where
  sent := by
    rw [sent_silent hsilent]
    rfl
  consecutive := rfl
  current hlive hfinal := by
    have hlater := revived_meetAll hdown hlive
    omega

theorem exists_continues (moments : List Moment) (hattached : s.status = .attached)
    (hnone : ∀ welcome ∈ s.welcomes moments, welcome.attempts ≠ s.attempts) :
    ∃ requests, Continues s (s.meetAll moments).1 (s.meetAll moments).2 requests := by
  induction moments generalizing s with
  | nil =>
      refine ⟨[], rfl, rfl, fun _ _ => ⟨List.not_mem_nil, rfl, fun entry hmem => .inl hmem⟩⟩
  | cons moment rest ih =>
      obtain ⟨after, effects, hmeet, hmet⟩ := exists_met moment s
      rw [welcomes, hmeet] at hnone
      rw [meetAll_cons, hmeet]
      have hlater (hstatus : after.status = .attached) (hattempts : after.attempts = s.attempts) :
          ∃ requests, Continues after (after.meetAll rest).1 (after.meetAll rest).2 requests := by
        refine ih hstatus fun welcome hmem => ?_
        rw [hattempts]
        exact hnone welcome (List.mem_append_right _ hmem)
      cases hmet with
      | ignored plain => exact hlater hattached rfl
      | opening down plain =>
          rw [down] at hattached
          contradiction
      | greeted messages waiting plain openers =>
          rw [waiting] at hattached
          contradiction
      | asked payload plain =>
          obtain ⟨requests, h⟩ := hlater hattached rfl
          rw [if_pos hattached]
          exact ⟨_, h.asked rfl rfl rfl rfl⟩
      | attached sessionId requestCursor profile changes welcome silent =>
          rw [if_pos welcome] at hnone
          exact (hnone _ (List.mem_append_left _ (List.mem_singleton.mpr rfl)) rfl).elim
      | accepted response live plain isNext =>
          obtain ⟨requests, h⟩ := hlater hattached rfl
          exact ⟨requests, h.meanwhile (by simp [Effect.silent]) rfl rfl
            fun entry => Outbox.mem_of_mem_dropBelow⟩
      | passedOver response live plain isOther =>
          obtain ⟨requests, h⟩ := hlater hattached rfl
          exact ⟨requests, h.meanwhile (by simp [Effect.silent]) rfl rfl fun entry => id⟩
      | ended status before closing live down plain silentBefore silentAfter =>
          rw [List.append_assoc, List.cons_append]
          exact ⟨[], .closed down rfl silentBefore⟩

/-! ## A whole connection -/

/-- The requests on a connection start with the first one that was pending when the session was
attached on it, and go on without a gap. -/
inductive CatchesUp : List Session → List Request → Prop where
  | unattached : CatchesUp [] []
  | attached (welcome : Session) (requests : List Request)
      (consecutive : Consecutive welcome.firstPending (welcome.firstPending + requests.length)
        requests) : CatchesUp [welcome] requests

theorem CatchesUp.of_prefix {welcomes : List Session} {requests fewer : List Request}
    (h : CatchesUp welcomes requests) (hfewer : fewer <+: requests) :
    CatchesUp welcomes fewer := by
  cases h with
  | unattached =>
      obtain rfl := List.prefix_nil.mp hfewer
      exact .unattached
  | attached welcome requests consecutive =>
      obtain ⟨more, rfl⟩ := hfewer
      exact .attached welcome fewer (Consecutive.append_iff.mp consecutive).1

/-- What is sent on a connection on which the session is not attached yet. -/
structure Carries (connection : Nat) (final : Session) (effects : List Effect)
    (welcomes : List Session) (openers : List ClientMessage) (requests : List Request) : Prop where
  requestless : ∀ request, .request request ∉ openers
  sent : sent effects = openers ++ requests.map .request
  answered : CatchesUp welcomes requests
  current : final.status.live → final.attempts = connection → .closeTransport ∉ effects ∧
    (final.status = .attached → ∃ welcome, welcomes = [welcome] ∧
      Consecutive welcome.firstPending final.nextRequestId requests ∧
        ∀ entry ∈ final.outbox.entries, entry ∈ requests)

section

variable {connection : Nat} {final : Session} {more : List Effect} {welcomes : List Session}
  {openers : List ClientMessage} {requests : List Request}

theorem Carries.meanwhile (h : Carries connection final more welcomes openers requests)
    (hsilent : ∀ effect ∈ effects, effect.silent) :
    Carries connection final (effects ++ more) welcomes openers requests where
  requestless := h.requestless
  sent := by rw [sent_silent hsilent, h.sent]
  answered := h.answered
  current hlive hfinal := by
    obtain ⟨hopen, hattached⟩ := h.current hlive hfinal
    refine ⟨?_, hattached⟩
    rw [List.mem_append, not_or]
    exact ⟨close_not_mem_of_silent hsilent, hopen⟩

theorem Carries.greeted (h : Carries connection final more welcomes openers requests)
    {messages : List ClientMessage} (hmessages : ∀ request, .request request ∉ messages) :
    Carries connection final (messages.map .send ++ more) welcomes (messages ++ openers) requests
    where
  requestless request := by
    rw [List.mem_append, not_or]
    exact ⟨hmessages request, h.requestless request⟩
  sent := by rw [sent_sends, h.sent, List.append_assoc]
  answered := h.answered
  current hlive hfinal := by
    obtain ⟨hopen, hattached⟩ := h.current hlive hfinal
    refine ⟨?_, hattached⟩
    simpa using hopen

theorem Carries.attached (hcontinues : Continues after final more requests)
    (hnumbered : after.Numbered) {changes : List Effect}
    (hsilent : ∀ effect ∈ changes, effect.silent) :
    Carries after.attempts final
      (after.outbox.entries.map (fun entry => .send (.request entry)) ++ changes ++ more)
      [after] [] (after.outbox.entries ++ requests) where
  requestless request := List.not_mem_nil
  sent := by
    have hsends : after.outbox.entries.map (fun entry => Effect.send (.request entry)) =
        (after.outbox.entries.map ClientMessage.request).map .send := by
      rw [List.map_map]
      rfl
    rw [List.append_assoc, hsends, sent_sends, sent_silent hsilent, hcontinues.sent,
      List.nil_append, List.map_append]
  answered := by
    have hall := hnumbered.append hcontinues.consecutive
    refine .attached after _ ?_
    rwa [hall.length_eq]
  current hlive hfinal := by
    obtain ⟨hopen, hlast, hentries⟩ := hcontinues.current hlive hfinal
    refine ⟨?_, fun _ => ⟨after, rfl, ?_, fun entry hmem => ?_⟩⟩
    · simp [hopen, close_not_mem_of_silent hsilent]
    · rw [← hlast]
      exact hnumbered.append hcontinues.consecutive
    · exact List.mem_append.mpr (hentries entry hmem)

theorem Carries.closed {moments : List Moment} {closing : List Effect}
    (hdown : ¬ after.status.live) (hconnection : after.attempts = connection)
    (hsilent : ∀ effect ∈ effects, effect.silent) :
    Carries connection (after.meetAll moments).1 (effects ++ .closeTransport :: closing) [] []
      [] where
  requestless request := List.not_mem_nil
  sent := by
    rw [sent_silent hsilent]
    rfl
  answered := .unattached
  current hlive hfinal := by
    have hlater := revived_meetAll hdown hlive
    omega

end

theorem exists_carries {connection : Nat} (moments : List Moment)
    (hlive : s.status.live) (hfresh : s.status ≠ .attached) (hnumbered : s.Numbered)
    (hconnection : s.attempts = connection)
    (hsingle : ((s.welcomes moments).filter (·.attempts = connection)).length ≤ 1) :
    ∃ openers requests, Carries connection (s.meetAll moments).1 (s.meetAll moments).2
      ((s.welcomes moments).filter (·.attempts = connection)) openers requests := by
  induction moments generalizing s with
  | nil =>
      refine ⟨[], [], fun request => List.not_mem_nil, rfl, .unattached, fun _ _ => ?_⟩
      exact ⟨List.not_mem_nil, fun hattached => absurd hattached hfresh⟩
  | cons moment rest ih =>
      obtain ⟨after, effects, hmeet, hmet⟩ := exists_met moment s
      rw [welcomes, hmeet, List.filter_append] at hsingle
      rw [meetAll_cons, welcomes, hmeet, List.filter_append]
      -- Nothing but a welcome attaches the session.
      have hplain (hplain : s.welcomed moment = false) :
          (if s.welcomed moment then [after] else []).filter (·.attempts = connection) = [] := by
        rw [hplain]
        rfl
      have hlater (hlive : after.status.live) (hfresh : after.status ≠ .attached)
          (hattempts : after.attempts = s.attempts) :
          ∃ openers requests, Carries connection (after.meetAll rest).1 (after.meetAll rest).2
            ((after.welcomes rest).filter (·.attempts = connection)) openers requests := by
        refine ih hlive hfresh (hmet.numbered hnumbered) (hattempts.trans hconnection) ?_
        rw [List.length_append] at hsingle
        exact Nat.le_trans (Nat.le_add_left _ _) hsingle
      cases hmet with
      | ignored plain =>
          rw [hplain plain]
          exact hlater hlive hfresh rfl
      | opening down plain =>
          rw [down] at hlive
          contradiction
      | greeted messages waiting plain openers =>
          obtain ⟨others, requests, h⟩ := hlater rfl (by simp) rfl
          rw [hplain plain, List.nil_append, List.append_assoc]
          exact ⟨_, requests, (h.meanwhile (by simp [Effect.silent])).greeted openers⟩
      | asked payload plain =>
          rw [hplain plain, if_neg hfresh]
          exact hlater hlive hfresh rfl
      | attached sessionId requestCursor profile changes welcome silent =>
          subst hconnection
          have hnumbered := (Met.attached sessionId requestCursor profile changes welcome
            silent).numbered hnumbered
          rw [if_pos welcome, List.filter_cons_of_pos (by simp), List.filter_nil] at hsingle ⊢
          rw [List.length_append, List.length_singleton] at hsingle
          have hlength := Nat.le_zero.mp (Nat.le_of_add_le_add_left hsingle)
          have hrest := List.length_eq_zero_iff.mp hlength
          rw [hrest]
          obtain ⟨requests, h⟩ := exists_continues rest rfl fun other hmem heq =>
            List.filter_eq_nil_iff.mp hrest other hmem (decide_eq_true heq)
          exact ⟨[], _, .attached h hnumbered silent⟩
      | accepted response live plain isNext =>
          obtain ⟨openers, requests, h⟩ := hlater hlive hfresh rfl
          rw [hplain plain]
          exact ⟨openers, requests, h.meanwhile (by simp [Effect.silent])⟩
      | passedOver response live plain isOther =>
          obtain ⟨openers, requests, h⟩ := hlater hlive hfresh rfl
          rw [hplain plain]
          exact ⟨openers, requests, h.meanwhile (by simp [Effect.silent])⟩
      | ended status before closing live down plain silentBefore silentAfter =>
          subst hconnection
          have hrest : (welcomes rest { s with status }).filter (·.attempts = s.attempts) = [] :=
            filter_welcomes_eq_nil (s := { s with status }) (Nat.le_refl _)
              (fun hcurrent => down hcurrent.1) rest
          rw [hplain plain, hrest, List.nil_append, List.append_assoc, List.cons_append]
          exact ⟨[], [], .closed down rfl silentBefore⟩

/-! ## The connections of a run -/

theorem Met.opening_of_mem (h : Met s moment after effects) (hmem : .openTransport ∈ effects) :
    effects = [.stateChanged .awaitingConnect, .openTransport] ∧
      after.status = .awaitingConnect ∧ s.welcomed moment = false := by
  cases h with
  | opening down plain => exact ⟨rfl, rfl, plain⟩
  | ignored plain => contradiction
  | greeted messages waiting plain openers => simp at hmem
  | asked payload plain => split at hmem <;> simp at hmem
  | attached sessionId requestCursor profile changes welcome silent =>
      rcases List.mem_append.mp hmem with hmem | hmem
      · simp at hmem
      · exact absurd hmem (open_not_mem_of_silent silent)
  | accepted response live plain isNext => simp at hmem
  | passedOver response live plain isOther => simp at hmem
  | ended status before after live down plain silentBefore silentAfter =>
      have hbefore := open_not_mem_of_silent silentBefore
      have hafter := open_not_mem_of_silent silentAfter
      simp [hbefore, hafter] at hmem

structure Connection (s : Session) (moments : List Moment) (before later : List Effect)
    (start : Session) (rest : List Moment) : Prop where
  status : start.status = .awaitingConnect
  numbered : start.Numbered
  attempts : start.attempts = s.attempts + before.count .openTransport + 1
  run : start.meetAll rest = ((s.meetAll moments).1, later)
  welcomes : (s.welcomes moments).filter (·.attempts = start.attempts) =
    (start.welcomes rest).filter (·.attempts = start.attempts)

theorem Connection.later {rest last : List Moment} {before later : List Effect} {start : Session}
    (hmeet : s.meet moment = (after, effects)) (hmet : Met s moment after effects)
    (h : Connection after rest before later start last) :
    Connection s (moment :: rest) (effects ++ before) later start last where
  status := h.status
  numbered := h.numbered
  attempts := by rw [h.attempts, List.count_append, ← Nat.add_assoc, hmet.count_open]
  run := by rw [h.run, meetAll_cons, hmeet]
  welcomes := by
    have hless : after.attempts ≠ start.attempts := by
      have hattempts := h.attempts
      omega
    have hearlier :
        (if s.welcomed moment then [after] else []).filter (·.attempts = start.attempts) = [] := by
      split <;> simp [hless]
    rw [Session.welcomes, hmeet, List.filter_append, hearlier, List.nil_append, h.welcomes]

theorem exists_connection {moments : List Moment} {before later : List Effect}
    (hnumbered : s.Numbered) (h : (s.meetAll moments).2 = before ++ .openTransport :: later) :
    ∃ start rest, Connection s moments before later start rest := by
  induction moments generalizing s before with
  | nil => simp [meetAll] at h
  | cons moment rest ih =>
      obtain ⟨after, effects, hmeet, hmet⟩ := exists_met moment s
      have hafter := hmet.numbered hnumbered
      rw [meetAll_cons, hmeet] at h
      rcases List.append_eq_append_iff.mp h with ⟨middle, rfl, hrest⟩ | ⟨middle, rfl, hrest⟩
      · obtain ⟨start, last, hlater⟩ := ih hafter hrest
        exact ⟨start, last, hlater.later hmeet hmet⟩
      · rcases List.cons_eq_append_iff.mp hrest with ⟨rfl, hrest⟩ | ⟨others, rfl, hrest⟩
        · have hrest : (after.meetAll rest).2 = [] ++ .openTransport :: later := hrest
          obtain ⟨start, last, hlater⟩ := ih hafter hrest
          rw [List.append_nil] at hmeet hmet
          have hconnection := hlater.later hmeet hmet
          rw [List.append_nil] at hconnection
          exact ⟨start, last, hconnection⟩
        · -- The connection is opened at this moment.
          obtain ⟨heffects, hstatus, hplain⟩ := hmet.opening_of_mem (by simp)
          obtain ⟨rfl, rfl⟩ : before = [.stateChanged .awaitingConnect] ∧ others = [] := by
            cases before with
            | nil => simp at heffects
            | cons first between =>
                cases between with
                | nil => simpa using heffects
                | cons second last => simp at heffects
          have hcount := hmet.count_open
          refine ⟨after, rest, hstatus, hafter, ?_, ?_, ?_⟩
          · rw [← hcount]
            rfl
          · rw [meetAll_cons, hmeet, hrest]
            rfl
          · rw [welcomes, hmeet, hplain]
            rfl

/-- Every connection of a run carries its openers, and then the requests that catch up. -/
theorem connection_carries {moments : List Moment} {before later : List Effect} {connection : Nat}
    (hnumbered : s.Numbered) (h : (s.meetAll moments).2 = before ++ .openTransport :: later)
    (hconnection : s.attempts + before.count .openTransport + 1 = connection)
    (hsingle : ((s.welcomes moments).filter (·.attempts = connection)).length ≤ 1) :
    ∃ openers requests, Carries connection (s.meetAll moments).1 later
      ((s.welcomes moments).filter (·.attempts = connection)) openers requests := by
  obtain ⟨start, rest, hstart⟩ := exists_connection hnumbered h
  obtain rfl : start.attempts = connection := hstart.attempts.trans hconnection
  rw [hstart.welcomes] at hsingle ⊢
  have hcarries := exists_carries rest (hstart.status ▸ rfl) (by simp [hstart.status])
    hstart.numbered rfl hsingle
  rwa [hstart.run] at hcarries

theorem exists_last_opening {moments : List Moment} (hdown : ¬ s.status.live)
    (hlive : (s.meetAll moments).1.status.live) :
    ∃ before later, (s.meetAll moments).2 = before ++ .openTransport :: later ∧
      .openTransport ∉ later ∧
      s.attempts + before.count .openTransport + 1 = (s.meetAll moments).1.attempts := by
  have hcount := count_open_meetAll moments s
  have hopened := revived_meetAll hdown hlive
  have hmem : Effect.openTransport ∈ (s.meetAll moments).2.reverse := by
    rw [List.mem_reverse, ← List.count_pos_iff]
    omega
  obtain ⟨later, before, hsplit, hlast⟩ := List.eq_append_cons_of_mem hmem
  have heffects : (s.meetAll moments).2 = before.reverse ++ .openTransport :: later.reverse := by
    rw [← List.reverse_reverse (s.meetAll moments).2, hsplit]
    simp
  have hlater : Effect.openTransport ∉ later.reverse := by
    rwa [List.mem_reverse]
  refine ⟨_, _, heffects, hlater, ?_⟩
  rw [← hcount, heffects, List.count_append, List.count_cons_self,
    List.count_eq_zero_of_not_mem hlater, Nat.zero_add, Nat.add_assoc]

/-! ## Sessions from their beginning -/

theorem Numbered.new (config : Config) : (new config).Numbered := rfl

section

variable (config : Config) (inputs : List Input)

theorem steps_new :
    (((new config).steps inputs).1.bare, ((new config).steps inputs).2) =
      (new config).meetAll ((new config).history inputs) :=
  steps_history (.new config) inputs

theorem steps_carries {before later : List Effect}
    (h : ((new config).steps inputs).2 = before ++ .openTransport :: later)
    (hsingle : successes ((new config).inbound (before.count .openTransport + 1) inputs) ≤ 1) :
    ∃ openers requests,
      Carries (before.count .openTransport + 1) ((new config).steps inputs).1.bare later
        ((new config).welcomesOn (before.count .openTransport + 1) inputs) openers requests := by
  obtain ⟨hfinal, heffects⟩ := Prod.mk.inj (steps_new config inputs)
  have hwelcomes : ((new config).welcomesOn (before.count .openTransport + 1) inputs).length ≤
      successes ((new config).inbound (before.count .openTransport + 1) inputs) :=
    length_welcomesOn_le (.new config) inputs
  rw [hfinal]
  refine connection_carries (.new config) (heffects ▸ h) ?_ (Nat.le_trans hwelcomes hsingle)
  exact congrArg (· + 1) (Nat.zero_add _)

theorem steps_last_opening (hlive : ((new config).steps inputs).1.status.live) :
    ∃ before later, ((new config).steps inputs).2 = before ++ .openTransport :: later ∧
      .openTransport ∉ later ∧
      before.count .openTransport + 1 = ((new config).steps inputs).1.attempts := by
  obtain ⟨hfinal, heffects⟩ := Prod.mk.inj (steps_new config inputs)
  have hdown : ¬ (new config).status.live := Bool.false_ne_true
  have hstill : ((new config).meetAll ((new config).history inputs)).1.status.live := by
    rw [← hfinal]
    exact hlive
  obtain ⟨before, later, hsplit, hlast, hcount⟩ := exists_last_opening hdown hstill
  refine ⟨before, later, heffects.trans hsplit, hlast, ?_⟩
  rw [← hfinal] at hcount
  exact (congrArg (· + 1) (Nat.zero_add _).symm).trans hcount

end

end Session

end ResumableSession
