import ResumableSession.Proofs.Client.OneSocket

/-!
Connecting again.

A session that gives up its connection asks for a timer.  As long as the page can set timers, a
client that was started and has no connection has a timer that is still to fire, and when it fires,
the client connects again.  If no socket can be made then, there is another timer.
-/

namespace ResumableSession

/-! ## Sessions that lose their connection -/

theorem Change.retried {delay : Nat} {moment : Moment} {status after : Status}
    {effects : List Effect} (h : Change delay moment status after effects)
    (hdown : after = .disconnected) :
    status = .disconnected ∨ ∃ delay, .scheduleReconnect delay ∈ effects := by
  cases h with
  | idles | talks live talk plain => exact .inl hdown
  | opens unheard | connects opened talk plain | attaches fresh talk plain heard => contradiction
  | ends live ending heard =>
      refine .inr ⟨delay, ?_⟩
      cases ending with
      | lost cause | undecodable error => simp [Ending.effects]
      | rejected => contradiction

namespace Session

variable {s : Session}

theorem retried_meetAll {moments : List Moment}
    (hdown : (s.meetAll moments).1.status = .disconnected) :
    s.status = .disconnected ∨ ∃ delay, .scheduleReconnect delay ∈ (s.meetAll moments).2 := by
  induction moments generalizing s with
  | nil => exact .inl hdown
  | cons moment rest ih =>
      rw [meetAll_cons] at hdown ⊢
      rcases ih hdown with hfirst | ⟨delay, hrest⟩
      · exact ((meet_change moment s).retried hfirst).imp_right fun ⟨delay, hmem⟩ =>
          ⟨delay, List.mem_append_left _ hmem⟩
      · exact .inr ⟨delay, List.mem_append_right _ hrest⟩

theorem retried_step (hsound : s.buffer.Sound) {input : Input}
    (hdown : (s.step input).1.status = .disconnected) :
    s.status = .disconnected ∨ ∃ delay, .scheduleReconnect delay ∈ (s.step input).2 := by
  obtain ⟨hafter, heffects⟩ := Prod.mk.inj (step_moments hsound input)
  rw [heffects]
  refine retried_meetAll (s := s.bare) ?_
  rw [← hafter]
  exact hdown

theorem step_of_disconnected (hdown : s.status = .disconnected) (input : Input) :
    (s.step input).1.status = .awaitingConnect ∧ (s.step input).1.attempts = s.attempts + 1 ∨
      (s.step input).1.status = .disconnected ∧ (s.step input).1.attempts = s.attempts := by
  have hnothing (hstep : s.step input = (s, [])) : (s.step input).1.status = .disconnected ∧
      (s.step input).1.attempts = s.attempts := by
    rw [hstep]
    exact ⟨hdown, rfl⟩
  have hlive : ¬ s.status.live := by simp [hdown, Status.live]
  cases input with
  | start | connect =>
      have hconnect := connect_of_disconnected hdown
      exact .inl ⟨by simp [step, start, hconnect], by simp [step, start, hconnect]⟩
  | opened => exact .inr (hnothing (if_neg (by simp [hdown])))
  | lost cause => exact .inr (hnothing (lost_of_not_live hlive cause))
  | received fragment => exact .inr (hnothing (received_of_not_live hlive fragment))
  | request payload => exact .inr ⟨hdown, rfl⟩

theorem waiting_of_wanted (hwaiting : s.status = .awaitingConnect) {input : Input}
    (hwanted : input.wanted) : (s.step input).1.status = .awaitingConnect := by
  have hconnect : s.connect = (s, []) := if_neg (by simp [hwaiting])
  cases input with
  | start | connect => simp [step, start, hconnect, hwaiting]
  | request payload => exact hwaiting
  | opened | lost cause | received fragment => contradiction

theorem status_lost (hdown : s.status = .awaitingConnect ∨ s.status = .disconnected)
    (cause : TransportError) : (s.step (.lost cause)).1.status = .disconnected := by
  rcases hdown with hwaiting | hdown
  · simp [step, lost, hwaiting, dropConnection_status]
  · simp [step, lost, hdown]

theorem attempts_le_step (h : Tidy s) (input : Input) : s.attempts ≤ (s.step input).1.attempts := by
  rcases step_attempts h input with ⟨hsame, -⟩ | ⟨hmore, -⟩ <;> omega

end Session

/-! ## Timers of a page -/

namespace Fixtures

structure KeepsTimers (f g : Fixtures) : Prop where
  conditions : g.conditions = f.conditions
  count : f.timerCount ≤ g.timerCount
  timers : ∀ timer ∈ f.timers, timer ∈ g.timers

variable {f : Fixtures}

theorem keepsTimers_refl (f : Fixtures) : KeepsTimers f f :=
  ⟨rfl, Nat.le_refl _, fun _ hmem => hmem⟩

theorem keepsTimers_enter (call : HostCall) (f : Fixtures) : KeepsTimers f (f.enter call) := by
  cases call with
  | scheduleReconnect delay =>
      simp only [enter]
      split
      · exact ⟨rfl, Nat.le_succ _, fun _ hmem => List.mem_append_left _ hmem⟩
      · exact keepsTimers_refl f
  | openTransport | closeTransport | send text | stateChanged status | deliver payload =>
      exact ⟨rfl, Nat.le_refl _, fun _ hmem => hmem⟩

def Punctual (conditions : Client.Conditions) : Prop :=
  conditions.hasWindow ∧ conditions.timerThrows = none

theorem timer_enter (hpunctual : Punctual f.conditions) (delay : Nat) :
    f.timerCount + 1 ∈ (f.enter (.scheduleReconnect delay)).timers := by
  rw [enter, if_pos ⟨hpunctual.1, hpunctual.2⟩]
  simp

theorem punctual_prepare (h : Punctual f.conditions) {action : Client.Step}
    (hpunctual : ∀ conditions, action = .conditions conditions → Punctual conditions) :
    Punctual (f.prepare action).conditions := by
  cases action with
  | conditions conditions => exact hpunctual conditions rfl
  | start | send value | look | event socket event | timer timer | initLogging | wait | free =>
      exact h

theorem timerCount_prepare (action : Client.Step) (f : Fixtures) :
    (f.prepare action).timerCount = f.timerCount := by
  cases action <;> rfl

theorem timers_prepare {action : Client.Step}
    (hidle : ∀ timer, action = .timer timer → timer ∉ f.timers) {timer : Nat}
    (hmem : timer ∈ f.timers) : timer ∈ (f.prepare action).timers := by
  cases action with
  | timer other =>
      refine List.mem_filter.mpr ⟨hmem, decide_eq_true ?_⟩
      rintro rfl
      exact hidle timer rfl hmem
  | start | send value | look | event socket event | conditions conditions | initLogging | wait
  | free => exact hmem

end Fixtures

namespace Client

open Fixtures

/-- A client that was started and has no connection has a timer, later than the one with the given
number, or it is about to set one.  It has asked for so many connections at least. -/
structure Waits (earlier asked : Nat) (d : Dispatch Shell) : Prop where
  tidy : Session.Tidy d.session
  punctual : Punctual d.host.fixtures.conditions
  counted : earlier ≤ d.host.fixtures.timerCount
  asked : asked ≤ d.session.attempts
  tried : d.session.status ≠ .disconnected → 0 < d.session.attempts
  awaited : d.session.status = .disconnected → 0 < d.session.attempts →
    (∃ timer ∈ d.host.fixtures.timers, earlier < timer) ∨
      ∃ delay, .scheduleReconnect delay ∈ d.queue

variable {earlier asked : Nat} {c : Client} {d e next : Dispatch Shell} {input : Option Input}

theorem Waits.of_same (h : Waits earlier asked d) (hsession : e.session = d.session)
    (hqueue : e.queue = d.queue) (hpunctual : Punctual e.host.fixtures.conditions)
    (hcount : d.host.fixtures.timerCount ≤ e.host.fixtures.timerCount)
    (htimers : ∀ timer ∈ d.host.fixtures.timers, timer ∈ e.host.fixtures.timers) :
    Waits earlier asked e where
  tidy := hsession ▸ h.tidy
  punctual := hpunctual
  counted := Nat.le_trans h.counted hcount
  asked := hsession ▸ h.asked
  tried := hsession ▸ h.tried
  awaited := by
    rw [hsession, hqueue]
    exact fun hdown htried => (h.awaited hdown htried).imp_left fun ⟨timer, hmem, hless⟩ =>
      ⟨timer, htimers timer hmem, hless⟩

theorem Waits.fed (h : Waits earlier asked d) (hfed : Dispatch.Fed input d e)
    (hfixtures : e.host.fixtures = d.host.fixtures) : Waits earlier asked e := by
  obtain ⟨hsession, hqueue⟩ := hfed
  cases input with
  | none =>
      simp only [Option.toList_none, Session.steps, List.append_nil] at hsession hqueue
      exact h.of_same hsession hqueue (hfixtures ▸ h.punctual) (by rw [hfixtures])
        (by rw [hfixtures]; exact fun timer => id)
  | some given =>
      simp only [Option.toList_some, Session.steps, List.append_nil] at hsession hqueue
      have hmore := Session.attempts_le_step h.tidy given
      refine ⟨hsession ▸ h.tidy.step given, hfixtures ▸ h.punctual, hfixtures ▸ h.counted,
        hsession ▸ Nat.le_trans h.asked hmore, ?_, ?_⟩
      · intro hstatus
        rw [hsession] at hstatus ⊢
        by_cases hdown : d.session.status = .disconnected
        · rcases Session.step_of_disconnected hdown given with ⟨-, hmore⟩ | ⟨hstill, -⟩
          · rw [hmore]
            exact Nat.succ_pos _
          · contradiction
        · exact Nat.lt_of_lt_of_le (h.tried hdown) hmore
      · intro hstatus htried
        rw [hsession] at hstatus htried
        rw [hfixtures, hqueue]
        -- A session that was down before is waiting already; one that was not asks for a timer.
        by_cases hdown : d.session.status = .disconnected
        · rcases Session.step_of_disconnected hdown given with ⟨hconnecting, -⟩ | ⟨-, hsame⟩
          · rw [hconnecting] at hstatus
            contradiction
          · rw [hsame] at htried
            exact (h.awaited hdown htried).imp_right (Exists.imp fun _ => List.mem_append_left _)
        · obtain ⟨delay, hmem⟩ := (Session.retried_step h.tidy.sound hstatus).resolve_left hdown
          exact .inr ⟨delay, List.mem_append_right _ hmem⟩

theorem Waits.executed (h : Waits earlier asked d) {effect : Effect} {rest : List Effect}
    (hqueue : d.queue = effect :: rest)
    (hsession : e.session = d.session) (hrest : e.queue = rest)
    (hfixtures : e.host.fixtures =
      effect.call?.elim d.host.fixtures fun call => d.host.fixtures.enter call) :
    Waits earlier asked e := by
  have hkeeps : KeepsTimers d.host.fixtures e.host.fixtures := by
    rw [hfixtures]
    cases effect.call? with
    | none => exact keepsTimers_refl _
    | some call => exact keepsTimers_enter call _
  refine ⟨hsession ▸ h.tidy, hkeeps.conditions ▸ h.punctual, Nat.le_trans h.counted hkeeps.count,
    hsession ▸ h.asked, hsession ▸ h.tried, ?_⟩
  rw [hsession, hrest]
  intro hdown htried
  rcases h.awaited hdown htried with ⟨timer, hmem, hless⟩ | ⟨delay, hmem⟩
  · exact .inl ⟨timer, hkeeps.timers timer hmem, hless⟩
  · rw [hqueue] at hmem
    rcases List.mem_cons.mp hmem with rfl | hmem
    -- Either this is the setting of the timer, or it is still to come.
    · refine .inl ⟨d.host.fixtures.timerCount + 1, ?_, Nat.lt_succ_of_le h.counted⟩
      rw [hfixtures]
      exact timer_enter h.punctual delay
    · exact .inr ⟨delay, hmem⟩

theorem Waits.stepped (h : Waits earlier asked c.dispatch)
    (hstep : c.dispatch.step? Shell.host = some next) : Waits earlier asked next := by
  have hfixtures := fixtures_step hstep
  cases Dispatch.step?_stepped hstep with
  | rested stage queue =>
      exact h.of_same rfl rfl h.punctual (Nat.le_refl _) fun timer hmem => hmem
  | executed effect rest stage queue =>
      obtain ⟨hsession, hrest, -⟩ :=
        Dispatch.execute_frame Shell.host effect { c.dispatch with queue := rest }
      rw [hostCall?_of_draining stage queue] at hfixtures
      exact h.executed queue hsession hrest hfixtures
  | called call failure inner host stage resume =>
      have hfed := Dispatch.fed_accept Shell.host inner { c.dispatch with host }
      rw [hostCall?_of_calling stage] at hfixtures
      exact h.fed ⟨hfed.session, hfed.queue⟩ hfixtures
  | finished call failure host stage resume =>
      have hfed := Dispatch.fed_finish Shell.host call failure { c.dispatch with host }
      rw [hostCall?_of_calling stage] at hfixtures
      exact h.fed ⟨hfed.session, hfed.queue⟩ hfixtures

theorem fed_begin {action : Step} {given : Input}
    (hcall : c.page.call? action = some (.submit given)) :
    Dispatch.Fed (some given) c.dispatch (c.begin action).dispatch := by
  have hfed := Dispatch.fed_accept Shell.host (.submit given) (c.prepare action).dispatch
  simp only [begin, hcall]
  exact ⟨hfed.session, hfed.queue⟩

theorem fed_timer {timer : Nat} (hpending : timer ∈ c.page.timers) :
    Dispatch.Fed (some .connect) c.dispatch (c.begin (.timer timer)).dispatch :=
  fed_begin (if_pos hpending)

theorem Waits.weaken (h : Waits earlier asked d) {first least : Nat} (hfirst : first ≤ earlier)
    (hleast : least ≤ d.session.attempts) : Waits first least d where
  tidy := h.tidy
  punctual := h.punctual
  counted := Nat.le_trans hfirst h.counted
  asked := hleast
  tried := h.tried
  awaited hdown htried := (h.awaited hdown htried).imp_left fun ⟨timer, hmem, hless⟩ =>
    ⟨timer, hmem, Nat.lt_of_le_of_lt hfirst hless⟩

theorem Waits.connects (h : Waits earlier asked d) :
    d.session.connect.1.status ≠ .disconnected ∧ 0 < d.session.connect.1.attempts := by
  by_cases hdown : d.session.status = .disconnected
  · simp [Session.connect_of_disconnected hdown]
  · have hnothing : d.session.connect = (d.session, []) := if_neg hdown
    rw [hnothing]
    exact ⟨hdown, h.tried hdown⟩

theorem Waits.fire (h : Waits earlier asked c.dispatch) {timer : Nat}
    (hpending : timer ∈ c.page.timers) :
    Waits c.page.timerCount (c.begin (.timer timer)).session.attempts
      (c.begin (.timer timer)).dispatch := by
  have hfed := fed_timer hpending
  have hsession : (c.begin (.timer timer)).dispatch.session = c.dispatch.session.connect.1 :=
    hfed.session
  have hfixtures : (c.begin (.timer timer)).dispatch.host.fixtures = _ :=
    fixtures_begin (.timer timer) c
  obtain ⟨hup, htried⟩ := h.connects
  rw [← hsession] at hup htried
  refine ⟨?_, ?_, ?_, Nat.le_refl _, fun _ => htried, fun hdown => absurd hdown hup⟩
  · rw [hsession]
    exact h.tidy.step .connect
  · rw [hfixtures]
    exact h.punctual
  · rw [hfixtures]
    exact Nat.le_refl _

theorem Waits.begins (h : Waits earlier asked c.dispatch) (action : Step)
    (hpunctual : ∀ conditions, action = .conditions conditions → Punctual conditions) :
    Waits earlier asked (c.begin action).dispatch := by
  by_cases hfires : ∃ timer ∈ c.page.timers, action = .timer timer
  · obtain ⟨timer, hpending, rfl⟩ := hfires
    refine (h.fire hpending).weaken h.counted (Nat.le_trans h.asked ?_)
    have hfed := fed_timer hpending
    rw [hfed.session]
    exact Session.attempts_le_step h.tidy .connect
  · have hprepared : Waits earlier asked (c.prepare action).dispatch := by
      have hfixtures : (c.prepare action).dispatch.host.fixtures = _ :=
        Shell.fixtures_prepare action c.dispatch.host
      refine h.of_same rfl rfl ?_ ?_ ?_
      · rw [hfixtures]
        exact punctual_prepare h.punctual hpunctual
      · rw [hfixtures, timerCount_prepare]
      · rw [hfixtures]
        exact fun timer hmem => timers_prepare
          (fun other hother hpending => hfires ⟨other, hpending, hother⟩) hmem
    unfold begin
    dsimp only
    split
    · exact hprepared
    · next call hcall =>
        exact hprepared.fed (Dispatch.fed_accept Shell.host call _) (Shell.fixtures_view.accept call _)

theorem Waits.settles (h : Waits earlier asked c.dispatch) :
    Waits earlier asked c.settle.dispatch ∧ c.settle.dispatch.stage = .idle :=
  Dispatch.settle_keeps (Waits earlier asked)
    (fun d _ hstep hwaits => Waits.stepped (c := { c with dispatch := d }) hwaits hstep) h

structure Rests (earlier asked : Nat) (c : Client) : Prop where
  waits : Waits earlier asked c.dispatch
  idle : c.dispatch.stage = .idle
  kept : c.freed = false

theorem Rests.step (h : Rests earlier asked c) {action : Step} (hkept : action ≠ .free)
    (hpunctual : ∀ conditions, action = .conditions conditions → Punctual conditions) :
    Rests earlier asked (c.step action).2 := by
  rw [step_eq action h.kept h.idle hkept]
  obtain ⟨hwaits, hidle⟩ := (h.waits.begins action hpunctual).settles
  exact ⟨hwaits, hidle, (freed_begin action c).trans h.kept⟩

theorem Rests.step_start (h : Rests earlier asked c) : Rests earlier 1 (c.step .start).2 := by
  have hcall : c.page.call? .start = some (.submit .start) := rfl
  have hfed := fed_begin hcall
  have hsession : (c.begin .start).dispatch.session = c.dispatch.session.connect.1 := hfed.session
  have htried := h.waits.connects.2
  rw [← hsession] at htried
  rw [step_eq .start h.kept h.idle nofun]
  obtain ⟨hwaits, hidle⟩ := ((h.waits.begins .start nofun).weaken
    (Nat.le_refl _) htried).settles
  exact ⟨hwaits, hidle, (freed_begin .start c).trans h.kept⟩

theorem Rests.run (h : Rests earlier asked c) {actions : List Step} (hkept : .free ∉ actions)
    (hpunctual : ∀ conditions, .conditions conditions ∈ actions → Punctual conditions) :
    Rests earlier asked (c.run actions) := by
  induction actions generalizing c with
  | nil => exact h
  | cons action rest ih =>
      rw [List.mem_cons, not_or] at hkept
      refine ih (h.step (Ne.symm hkept.1) ?_) hkept.2 ?_
      · rintro conditions rfl
        exact hpunctual conditions List.mem_cons_self
      · exact fun conditions hmem => hpunctual conditions (List.mem_cons_of_mem _ hmem)

theorem Rests.run_start (h : Rests earlier asked c) {actions : List Step} (hkept : .free ∉ actions)
    (hpunctual : ∀ conditions, .conditions conditions ∈ actions → Punctual conditions)
    (hstarted : .start ∈ actions) : Rests earlier 1 (c.run actions) := by
  obtain ⟨before, after, rfl⟩ := List.append_of_mem hstarted
  simp only [List.mem_append, List.mem_cons, not_or] at hkept
  have hbefore := h.run hkept.1 fun conditions hmem =>
    hpunctual conditions (List.mem_append_left _ hmem)
  have hafter := hbefore.step_start.run hkept.2.2 fun conditions hmem =>
    hpunctual conditions (List.mem_append_right _ (List.mem_cons_of_mem _ hmem))
  rwa [Client.run, List.foldl_append]

/-! ## Firing a timer -/

theorem keepsTimers_step (hstep : c.dispatch.step? Shell.host = some next) :
    KeepsTimers c.dispatch.host.fixtures next.host.fixtures := by
  rw [fixtures_step hstep]
  cases c.hostCall? with
  | none => exact keepsTimers_refl _
  | some call => exact keepsTimers_enter call _

theorem session_step (hstep : c.dispatch.step? Shell.host = some next) :
    next.session = c.dispatch.session ∨
      (∃ input, input.wanted ∧ next.session = (c.dispatch.session.step input).1) ∨
      c.dispatch.Refused ∧ next.session = (c.dispatch.session.step (.lost .errored)).1 := by
  cases Dispatch.step?_stepped hstep with
  | rested stage queue => exact .inl rfl
  | executed effect rest stage queue =>
      exact .inl (Dispatch.execute_frame Shell.host effect { c.dispatch with queue := rest }).1
  | called call failure inner host stage resume =>
      have hwanted : inner.wanted := Shell.wanted_of_resume (by rw [resume])
      cases inner with
      | event generation event => contradiction
      | submit input =>
          have hfed := Dispatch.fed_accept Shell.host (.submit input) { c.dispatch with host }
          exact .inr (.inl ⟨input, hwanted, hfed.session⟩)
  | finished call failure host stage resume =>
      cases failure with
      | none => exact .inl rfl
      | some reason => exact .inr (.inr ⟨⟨call, reason, stage⟩, rfl⟩)

structure Succeeding (d : Dispatch Shell) : Prop where
  works : d.host.fixtures.conditions.socketThrows = none
  waiting : d.session.status = .awaitingConnect
  granted : ¬ d.Refused

structure Failing (d : Dispatch Shell) : Prop where
  fails : d.host.fixtures.conditions.socketThrows.isSome
  status : d.session.status = .awaitingConnect ∨ d.session.status = .disconnected
  alone : ∀ transport, d.host.fixtures.slot ≠ .current transport

theorem not_refused_execute (effect : Effect)
    (hworks : d.host.fixtures.conditions.socketThrows = none) (hstage : d.stage = .draining) :
    ¬ (d.execute Shell.host effect).Refused := by
  rintro ⟨call, reason, hcalling⟩
  cases effect with
  | openTransport =>
      have hopens : d.host.page.socketThrows = none := hworks
      have hfailed : d.host.openTransport.1 = some reason := (Stage.calling.inj hcalling).2
      rw [Shell.failure_openTransport, hopens] at hfailed
      contradiction
  | closeTransport | send message | scheduleReconnect delay | stateChanged status
  | deliver payload => exact absurd (Stage.calling.inj hcalling).2 (by simp)
  | report error =>
      have hdraining : Stage.draining = .calling call (some reason) := hstage.symm.trans hcalling
      contradiction

theorem refused_step (hworks : c.dispatch.host.fixtures.conditions.socketThrows = none)
    (hstep : c.dispatch.step? Shell.host = some next) (hrefused : next.Refused) :
    c.dispatch.Refused := by
  cases Dispatch.step?_stepped hstep with
  | rested stage queue => exact absurd hrefused (Dispatch.not_refused (.inl rfl))
  | executed effect rest stage queue =>
      exact absurd hrefused (not_refused_execute effect hworks stage)
  | called call failure inner host stage resume =>
      obtain ⟨hostCall, reason, hcalling⟩ := hrefused
      rw [Dispatch.stage_accept (by simp [stage])] at hcalling
      exact ⟨hostCall, reason, hcalling⟩
  | finished call failure host stage resume =>
      refine absurd hrefused (Dispatch.not_refused (.inr ?_))
      cases failure <;> rfl

theorem Succeeding.stepped (h : Succeeding c.dispatch)
    (hstep : c.dispatch.step? Shell.host = some next) : Succeeding next := by
  have hconditions := (keepsTimers_step hstep).conditions
  have hgranted : ¬ next.Refused := fun hrefused => h.granted (refused_step h.works hstep hrefused)
  refine ⟨hconditions ▸ h.works, ?_, hgranted⟩
  rcases session_step hstep with hsame | ⟨input, hwanted, hheard⟩ | ⟨hrefused, -⟩
  · rw [hsame]
    exact h.waiting
  · rw [hheard]
    exact Session.waiting_of_wanted h.waiting hwanted
  · exact absurd hrefused h.granted

theorem slot_enter_of_throws (call : HostCall) {f : Fixtures}
    (hfails : f.conditions.socketThrows.isSome)
    (halone : ∀ transport, f.slot ≠ .current transport) (transport : Transport) :
    (f.enter call).slot ≠ .current transport := by
  cases call with
  | openTransport =>
      obtain ⟨thrown, hthrows⟩ := Option.isSome_iff_exists.mp hfails
      simp [Fixtures.enter, hthrows]
  | closeTransport =>
      intro hslot
      have hretired : f.slot.retire = .current transport := hslot
      cases hbefore : f.slot <;> simp [hbefore, Slot.retire] at hretired
  | scheduleReconnect delay =>
      simp only [Fixtures.enter]
      split <;> exact halone transport
  | send text | stateChanged status | deliver payload => exact halone transport

theorem Failing.stepped (h : Failing c.dispatch)
    (hstep : c.dispatch.step? Shell.host = some next) : Failing next := by
  have hconditions := (keepsTimers_step hstep).conditions
  refine ⟨hconditions ▸ h.fails, ?_, ?_⟩
  · rcases session_step hstep with hsame | ⟨input, hwanted, hheard⟩ | ⟨-, hlost⟩
    · rw [hsame]
      exact h.status
    · rw [hheard]
      rcases h.status with hwaiting | hdown
      · exact .inl (Session.waiting_of_wanted hwaiting hwanted)
      · exact (Session.step_of_disconnected hdown input).imp And.left And.left
    · rw [hlost]
      exact .inr (Session.status_lost h.status .errored)
  · rw [fixtures_step hstep]
    cases c.hostCall? with
    | none => exact h.alone
    | some call => exact slot_enter_of_throws call h.fails h.alone

theorem Succeeding.settles (h : Succeeding c.dispatch) : Succeeding c.settle.dispatch :=
  (Dispatch.settle_keeps Succeeding (fun d _ hstep hsucceeds =>
    Succeeding.stepped (c := { c with dispatch := d }) hsucceeds hstep) h).1

theorem Failing.settles (h : Failing c.dispatch) : Failing c.settle.dispatch :=
  (Dispatch.settle_keeps Failing (fun d _ hstep hfails =>
    Failing.stepped (c := { c with dispatch := d }) hfails hstep) h).1

/-- What happens when a timer of a client without connection fires. -/
structure Reconnects (timer : Nat) (c : Client) : Prop where
  fires : (c.step (.timer timer)).1 = .handled true
  leaves : (c.begin (.timer timer)).session.status = .awaitingConnect
  asks : c.session.attempts < (c.step (.timer timer)).2.session.attempts
  waits : c.page.socketThrows = none →
    (c.step (.timer timer)).2.session.status = .awaitingConnect
  retries : c.page.socketThrows.isSome →
    (c.step (.timer timer)).2.session.status = .disconnected ∧
      ∃ later ∈ (c.step (.timer timer)).2.page.timers, c.page.timerCount < later

section

variable {options : Options} {reactions : List (Reaction CallbackStep)} {page : Page}
  {start : Client} {operations : List SocketOperation} {timer : Nat}
  (hnew : Client.new options reactions page = .ok start) (life : Life start operations c)
  (h : Rests earlier asked c) (hdown : c.session.status = .disconnected)
  (hpending : timer ∈ c.page.timers)

include hdown hpending

theorem session_fire : (c.begin (.timer timer)).session.status = .awaitingConnect ∧
    (c.begin (.timer timer)).session.attempts = c.session.attempts + 1 := by
  have hfed := fed_timer hpending
  have hsession : (c.begin (.timer timer)).session = c.session.connect.1 := hfed.session
  rw [hsession, Session.connect_of_disconnected hdown]
  exact ⟨rfl, rfl⟩

include h

theorem Rests.succeeds (hopens : c.page.socketThrows = none) :
    Succeeding (c.begin (.timer timer)).dispatch := by
  refine ⟨?_, (session_fire hdown hpending).1, Dispatch.not_refused (.inr ?_)⟩
  · have hfixtures : (c.begin (.timer timer)).dispatch.host.fixtures = _ :=
      fixtures_begin (.timer timer) c
    rw [hfixtures]
    exact hopens
  · have hcall : c.page.call? (.timer timer) = some (.submit .connect) := if_pos hpending
    simp [begin, hcall, prepare, modifyShell, Dispatch.accept, Dispatch.feed, Dispatch.wake, h.idle]

include hnew life

theorem Rests.fails (hthrows : c.page.socketThrows.isSome) :
    Failing (c.begin (.timer timer)).dispatch := by
  have hfixtures : (c.begin (.timer timer)).dispatch.host.fixtures = _ :=
    fixtures_begin (.timer timer) c
  refine ⟨?_, .inl (session_fire hdown hpending).1, fun transport hslot => ?_⟩
  · rw [hfixtures]
    exact hthrows
  · rw [hfixtures] at hslot
    have hlive := (life.current_iff_live hnew h.idle).mp ⟨transport, hslot⟩
    rw [hdown] at hlive
    contradiction

theorem Rests.reconnects : Reconnects timer c := by
  have hstep := step_eq (.timer timer) h.kept h.idle nofun
  obtain ⟨hleaves, hmore⟩ := session_fire hdown hpending
  obtain ⟨⟨more, hafter⟩, hrest, -⟩ := life.step (.timer timer) h.kept h.idle nofun
  have hwaits := (h.waits.fire hpending).settles.1
  rw [← hstep, hmore] at hwaits
  refine ⟨?_, hleaves, hwaits.asked, fun hopens => ?_, fun hthrows => ?_⟩
  · simp [Client.step, fireTimer, hpending]
  · have hsucceeds := (h.succeeds hdown hpending hopens).settles
    rw [← hstep] at hsucceeds
    exact hsucceeds.waiting
  · have hfails := (h.fails hnew life hdown hpending hthrows).settles
    rw [← hstep] at hfails
    -- There is no connection, so the session cannot be waiting for one any more.
    have hstatus : (c.step (.timer timer)).2.session.status = .disconnected := by
      refine hfails.status.resolve_left fun hwaiting => ?_
      have hlive := congrArg Status.live hwaiting
      obtain ⟨transport, hslot⟩ := (hafter.current_iff_live hnew hrest).mpr hlive
      exact hfails.alone transport hslot
    have htried := Nat.lt_of_lt_of_le (Nat.succ_pos _) hwaits.asked
    refine ⟨hstatus, (hwaits.awaited hstatus htried).resolve_right ?_⟩
    have hempty := hafter.queue_of_idle hnew hrest
    simp [hempty]

end

/-- On a page that can set timers, a client that was started and has no connection has a timer that
is still to fire.  Whichever of its timers fires, it connects again, and if no socket can be made,
it sets another timer. -/
theorem reconnect_not_lost {options : Options} {reactions : List (Reaction CallbackStep)}
    {page : Page} {start : Client} (hnew : Client.new options reactions page = .ok start)
    (hwindow : page.hasWindow) (htimers : page.timerThrows = none) {actions : List Step}
    (hkept : .free ∉ actions)
    (hpunctual : ∀ conditions, .conditions conditions ∈ actions →
      conditions.hasWindow ∧ conditions.timerThrows = none)
    (hstarted : .start ∈ actions) (hdown : (start.run actions).session.status = .disconnected) :
    (∃ timer ∈ (start.run actions).page.timers, page.timerCount < timer) ∧
      ∀ timer ∈ (start.run actions).page.timers, Reconnects timer (start.run actions) := by
  obtain ⟨operations, hlife, hidle⟩ := new_run hnew hkept
  have hrests : Rests page.timerCount 0 start := by
    obtain ⟨url, rfl⟩ := new_dispatch hnew
    refine ⟨⟨.new _, ⟨hwindow, htimers⟩, Nat.le_refl _, Nat.le_refl _, ?_, ?_⟩, rfl, rfl⟩
    · exact fun hup => absurd rfl hup
    · exact fun _ htried => absurd htried (Nat.lt_irrefl _)
  have hafter := hrests.run_start hkept hpunctual hstarted
  refine ⟨(hafter.waits.awaited hdown hafter.waits.asked).resolve_right ?_, fun timer hpending =>
    hafter.reconnects hnew hlife hdown hpending⟩
  have hempty := hlife.queue_of_idle hnew hidle
  simp [hempty]

def stranded : Client :=
  { dispatch :=
    { session := .new {}
      host := { page := { socketThrows := some "refused" }, url := "wss://localhost/api/" } } }

theorem stranded_reconnects :
    Client.new { url := some "wss://localhost/api/" } [] { socketThrows := some "refused" } =
      .ok stranded ∧
    (stranded.run [.start]).session.status = .disconnected ∧
    ∃ timer ∈ (stranded.run [.start]).page.timers,
      0 < timer ∧ Reconnects timer (stranded.run [.start]) := by
  have hnew : Client.new { url := some "wss://localhost/api/" } []
      { socketThrows := some "refused" } = .ok stranded := rfl
  have hdown : (stranded.run [.start]).session.status = .disconnected := by
    rw [Client.run, List.foldl_cons, List.foldl_nil,
      step_eq_advance .start 12 rfl rfl (by decide) (by decide +kernel)]
    decide +kernel
  obtain ⟨⟨timer, hpending, hless⟩, hreconnects⟩ := reconnect_not_lost hnew rfl rfl (by decide)
    (by simp) (by decide) hdown
  exact ⟨hnew, hdown, timer, hpending, hless, hreconnects timer hpending⟩

end Client

end ResumableSession
