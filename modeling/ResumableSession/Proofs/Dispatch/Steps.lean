import ResumableSession.Dispatch.Rehearsal
import ResumableSession.Proofs.Session.Steps

/-!
What a step of a dispatcher does.

A step may feed the session, and it may take an effect out of the queue.  `Stepped` says what else
there is to it, case by case.  What all steps keep is kept until there is nothing left to do.

The host is called while a step is made.  Which calls it gets is found out by making the step with
a host that keeps a log of them, and not read off the effect: `handed_eq` says that the effect that
was taken out is what the host is called for.
-/

namespace ResumableSession

/-- The call to the host that carries out an effect. -/
def Effect.call? : Effect → Option HostCall
  | .openTransport => some .openTransport
  | .closeTransport => some .closeTransport
  | .send message => some (.send message.frame)
  | .scheduleReconnect delay => some (.scheduleReconnect delay)
  | .stateChanged status => some (.stateChanged status)
  | .deliver payload => some (.deliver payload)
  | .report _ => none

theorem Effect.call?_eq_open {effect : Effect} :
    effect.call? = some .openTransport ↔ effect = .openTransport := by
  cases effect <;> simp [call?]

theorem Effect.call?_eq_close {effect : Effect} :
    effect.call? = some .closeTransport ↔ effect = .closeTransport := by
  cases effect <;> simp [call?]

/-- The same host with a log of the calls that it gets. -/
def Host.logged {σ : Type} (h : Host σ) : Host (σ × List HostCall) where
  generation s := h.generation s.1
  note notice s := (h.note notice s.1, s.2)
  enter call s := ((h.enter call s.1).1, (h.enter call s.1).2, s.2 ++ [call])
  resume session s := ((h.resume session s.1).1, (h.resume session s.1).2, s.2)
  leave call s := (h.leave call s.1, s.2)
  credit s := h.credit s.1
  credit_note_le notice s := h.credit_note_le notice s.1
  credit_enter_le call s := h.credit_enter_le call s.1
  credit_resume_le session s := h.credit_resume_le session s.1
  credit_resume_lt session s := h.credit_resume_lt session s.1
  credit_leave_le call s := h.credit_leave_le call s.1

namespace Dispatch

variable {σ : Type} {h : Host σ} {start d e next : Dispatch σ}

/-! ## Inputs and effects -/

def input? (h : Host σ) (call : Call) (d : Dispatch σ) : Option Input :=
  match call with
  | .submit input => some input
  | .event generation event =>
      if h.generation d.host = some generation then some event.input else none

def fed? (h : Host σ) (d : Dispatch σ) : Option Input :=
  match d.stage with
  | .idle | .draining => none
  | .calling _ failure =>
      match h.resume d.session d.host with
      | (some inner, host) => { d with host }.input? h inner
      | (none, _) => failure.map fun _ => .lost .errored

/-- The effect that the next step takes out of the queue. -/
def due? (d : Dispatch σ) : Option Effect :=
  match d.stage with
  | .draining => d.queue.head?
  | .idle | .calling _ _ => none

structure Fed (input : Option Input) (d e : Dispatch σ) : Prop where
  session : e.session = (d.session.steps input.toList).1
  queue : e.queue = d.queue ++ (d.session.steps input.toList).2

theorem Fed.nothing (hsession : e.session = d.session) (hqueue : e.queue = d.queue) :
    Fed none d e where
  session := hsession
  queue := by simp [hqueue, Session.steps]

theorem fed_feed (input : Input) (d : Dispatch σ) : Fed (some input) d (d.feed input) where
  session := rfl
  queue := by simp [feed, Session.steps]

theorem Fed.wake {input : Option Input} (hfed : Fed input d e) : Fed input d e.wake := by
  unfold Dispatch.wake
  split
  · exact ⟨hfed.session, hfed.queue⟩
  · exact hfed
  · exact hfed

theorem wake_ne_idle (d : Dispatch σ) : d.wake.stage ≠ .idle := by
  unfold Dispatch.wake
  split <;> simp_all

theorem stage_wake (hbusy : d.stage ≠ .idle) : d.wake.stage = d.stage := by
  unfold Dispatch.wake
  split <;> simp_all

theorem accept_cases (h : Host σ) (call : Call) (d : Dispatch σ) :
    (∃ input, d.input? h call = some input ∧ d.accept h call = (d.feed input).wake) ∨
      ∃ notice, d.input? h call = none ∧ d.accept h call = d.note h notice := by
  cases call with
  | submit input => exact .inl ⟨input, rfl, rfl⟩
  | event generation event =>
      by_cases hpresent : h.generation d.host = some generation
      · exact .inl ⟨event.input, if_pos hpresent, if_pos hpresent⟩
      · exact .inr ⟨.staleEvent generation event, if_neg hpresent, if_neg hpresent⟩

theorem fed_accept (h : Host σ) (call : Call) (d : Dispatch σ) :
    Fed (d.input? h call) d (d.accept h call) := by
  rcases accept_cases h call d with ⟨input, hinput, haccept⟩ | ⟨notice, hinput, haccept⟩
  · rw [hinput, haccept]
    exact (fed_feed input d).wake
  · rw [hinput, haccept]
    exact .nothing rfl rfl

theorem look_accept {τ : Type} {look : σ → τ}
    (hnote : ∀ notice s, look (h.note notice s) = look s) (call : Call) (d : Dispatch σ) :
    look (d.accept h call).host = look d.host := by
  rcases accept_cases h call d with ⟨input, -, haccept⟩ | ⟨notice, -, haccept⟩
  · rw [haccept, host_wake]
    rfl
  · rw [haccept]
    exact hnote notice d.host

theorem accept_idle {call : Call} (hidle : (d.accept h call).stage = .idle) :
    d.stage = .idle ∧ (d.accept h call).queue = d.queue := by
  rcases accept_cases h call d with ⟨input, -, haccept⟩ | ⟨notice, -, haccept⟩
  · rw [haccept] at hidle
    exact absurd hidle (wake_ne_idle _)
  · rw [haccept] at hidle ⊢
    exact ⟨hidle, rfl⟩

theorem stage_accept {call : Call} (hbusy : d.stage ≠ .idle) :
    (d.accept h call).stage = d.stage := by
  rcases accept_cases h call d with ⟨input, -, haccept⟩ | ⟨notice, -, haccept⟩
  · have hfed : (d.feed input).stage ≠ .idle := hbusy
    rw [haccept, stage_wake hfed]
    rfl
  · rw [haccept]
    rfl

theorem mem_queue_accept {effect : Effect} (call : Call) (hmem : effect ∈ d.queue) :
    effect ∈ (d.accept h call).queue := by
  rw [(fed_accept h call d).queue]
  exact List.mem_append_left _ hmem

theorem fed_finish (h : Host σ) (call : HostCall) (failure : Option String) (d : Dispatch σ) :
    Fed (failure.map fun _ => .lost .errored) d (d.finish h call failure) := by
  cases failure with
  | none => exact .nothing rfl rfl
  | some reason =>
      have hfed := fed_feed (.lost .errored)
        ({ d with host := h.leave call d.host, stage := .draining }.note h (.openFailed reason))
      exact ⟨hfed.session, hfed.queue⟩

theorem execute_frame (h : Host σ) (effect : Effect) (d : Dispatch σ) :
    (d.execute h effect).session = d.session ∧ (d.execute h effect).queue = d.queue ∧
      ((d.execute h effect).stage = .idle → d.stage = .idle) := by
  cases effect <;> simp [execute, callHost, note]

inductive Stepped (h : Host σ) (d : Dispatch σ) : Dispatch σ → Prop where
  | rested (stage : d.stage = .draining) (queue : d.queue = []) :
      Stepped h d { d with stage := .idle }
  | executed (effect : Effect) (rest : List Effect) (stage : d.stage = .draining)
      (queue : d.queue = effect :: rest) :
      Stepped h d ({ d with queue := rest }.execute h effect)
  | called (call : HostCall) (failure : Option String) (inner : Call) (host : σ)
      (stage : d.stage = .calling call failure)
      (resume : h.resume d.session d.host = (some inner, host)) :
      Stepped h d ({ d with host }.accept h inner)
  | finished (call : HostCall) (failure : Option String) (host : σ)
      (stage : d.stage = .calling call failure)
      (resume : h.resume d.session d.host = (none, host)) :
      Stepped h d ({ d with host }.finish h call failure)

theorem step?_stepped (hstep : d.step? h = some next) : Stepped h d next := by
  unfold step? at hstep
  split at hstep
  · contradiction
  · next hstage =>
      split at hstep
      · next hqueue =>
          obtain rfl := Option.some.inj hstep
          exact .rested hstage hqueue
      · next effect rest hqueue =>
          obtain rfl := Option.some.inj hstep
          exact .executed effect rest hstage hqueue
  · next call failure hstage =>
      split at hstep
      · next inner host hresume =>
          obtain rfl := Option.some.inj hstep
          exact .called call failure inner host hstage hresume
      · next host hresume =>
          obtain rfl := Option.some.inj hstep
          exact .finished call failure host hstage hresume

theorem idle_of_step?_eq_none (hstep : d.step? h = none) : d.stage = .idle := by
  unfold step? at hstep
  split at hstep
  · next hidle => exact hidle
  · split at hstep <;> contradiction
  · split at hstep <;> contradiction

theorem due?_of_head {effect : Effect} {rest : List Effect} (stage : d.stage = .draining)
    (queue : d.queue = effect :: rest) : d.due? = some effect := by
  simp [due?, stage, queue]

theorem due?_of_rested (stage : d.stage = .draining) (queue : d.queue = []) : d.due? = none := by
  simp [due?, stage, queue]

theorem due?_of_calling {call : HostCall} {failure : Option String}
    (stage : d.stage = .calling call failure) : d.due? = none := by
  simp only [due?, stage]

theorem fed?_of_draining (stage : d.stage = .draining) : d.fed? h = none := by
  simp only [fed?, stage]

theorem fed?_of_called {call : HostCall} {failure : Option String} {inner : Call} {host : σ}
    (stage : d.stage = .calling call failure)
    (resume : h.resume d.session d.host = (some inner, host)) :
    d.fed? h = { d with host }.input? h inner := by
  simp only [fed?, stage, resume]

theorem fed?_of_finished {call : HostCall} {failure : Option String} {host : σ}
    (stage : d.stage = .calling call failure)
    (resume : h.resume d.session d.host = (none, host)) :
    d.fed? h = failure.map fun _ => .lost .errored := by
  simp only [fed?, stage, resume]

theorem Stepped.effects (hstepped : Stepped h d next) :
    next.session = (d.session.steps (d.fed? h).toList).1 ∧
      d.due?.toList ++ next.queue = d.queue ++ (d.session.steps (d.fed? h).toList).2 := by
  cases hstepped with
  | rested stage queue => simp [fed?, due?, stage, queue, Session.steps]
  | executed effect rest stage queue =>
      obtain ⟨hsession, hqueue, -⟩ := execute_frame h effect { d with queue := rest }
      rw [fed?_of_draining stage, due?_of_head stage queue, hqueue, queue]
      simpa [Session.steps] using hsession
  | called call failure inner host stage resume =>
      have hfed := fed_accept h inner { d with host }
      rw [fed?_of_called stage resume, due?_of_calling stage]
      exact ⟨hfed.session, hfed.queue⟩
  | finished call failure host stage resume =>
      have hfed := fed_finish h call failure { d with host }
      rw [fed?_of_finished stage resume, due?_of_calling stage]
      exact ⟨hfed.session, hfed.queue⟩

theorem Stepped.idle (hstepped : Stepped h d next) (hidle : next.stage = .idle) :
    next.queue = [] := by
  cases hstepped with
  | rested stage queue => exact queue
  | executed effect rest stage queue =>
      have hstage := (execute_frame h effect { d with queue := rest }).2.2 hidle
      rw [stage] at hstage
      contradiction
  | called call failure inner host stage resume =>
      have hstage := (accept_idle hidle).1
      rw [stage] at hstage
      contradiction
  | finished call failure host stage resume => cases failure <;> contradiction

/-! ## Going on to the end -/

theorem settle_of_none (hstep : d.step? h = none) : d.settle h = d := by
  rw [settle]
  split <;> simp_all

theorem settle_of_some (hstep : d.step? h = some next) : d.settle h = next.settle h := by
  rw [settle]
  split <;> simp_all

theorem settle_of_idle (hidle : d.stage = .idle) : d.settle h = d :=
  settle_of_none (by simp only [step?, hidle])

def advance (h : Host σ) (count : Nat) (d : Dispatch σ) : Dispatch σ :=
  match count with
  | 0 => d
  | count + 1 =>
      match d.step? h with
      | none => d
      | some next => next.advance h count

theorem settle_advance (count : Nat) (d : Dispatch σ) :
    (d.advance h count).settle h = d.settle h := by
  induction count generalizing d with
  | zero => rfl
  | succ count ih =>
      unfold advance
      split
      · rfl
      · next later hstep => rw [settle_of_some hstep, ih later]

theorem settle_eq_advance {count : Nat} (hidle : (d.advance h count).stage = .idle) :
    d.settle h = d.advance h count := by
  rw [← settle_advance count, settle_of_idle hidle]

theorem settle_keeps (kept : Dispatch σ → Prop)
    (hkept : ∀ d next, d.step? h = some next → kept d → kept next) (hstart : kept d) :
    kept (d.settle h) ∧ (d.settle h).stage = .idle := by
  -- By induction on the steps that `settle` takes until there is none.
  induction d using Dispatch.settle.induct h with
  | case1 d hstep =>
      rw [settle_of_none hstep]
      exact ⟨hstart, idle_of_step?_eq_none hstep⟩
  | case2 d next hstep ih =>
      rw [settle_of_some hstep]
      exact ih (hkept d next hstep hstart)

/-! ## Calls -/

def logged (log : List HostCall) (d : Dispatch σ) : Dispatch (σ × List HostCall) :=
  { session := d.session, queue := d.queue, stage := d.stage, host := (d.host, log) }

/-- The calls that the host gets in the next step. -/
def handed (h : Host σ) (d : Dispatch σ) : List HostCall :=
  match (d.logged []).step? h.logged with
  | none => []
  | some next => next.host.2

section

variable (log : List HostCall)

theorem wake_logged (d : Dispatch σ) : (d.logged log).wake = d.wake.logged log := by
  unfold Dispatch.wake
  cases hstage : d.stage <;> simp [logged, hstage]

theorem accept_logged (h : Host σ) (call : Call) (d : Dispatch σ) :
    (d.logged log).accept h.logged call = (d.accept h call).logged log := by
  cases call with
  | submit input => exact wake_logged log (d.feed input)
  | event generation event =>
      have hsame : h.logged.generation (d.logged log).host = h.generation d.host := rfl
      simp only [accept, hsame]
      split
      · exact wake_logged log (d.feed event.input)
      · rfl

theorem execute_logged (h : Host σ) (effect : Effect) (d : Dispatch σ) :
    (d.logged log).execute h.logged effect =
      (d.execute h effect).logged (log ++ effect.call?.toList) := by
  cases effect with
  | openTransport | closeTransport | send message | scheduleReconnect delay | stateChanged status
  | deliver payload => rfl
  | report error => simp [execute, note, logged, Host.logged, Effect.call?]

theorem finish_logged (h : Host σ) (call : HostCall) (failure : Option String) (d : Dispatch σ) :
    (d.logged log).finish h.logged call failure = (d.finish h call failure).logged log := by
  cases failure <;> rfl

/-- A log makes no difference to a step, and the call for the effect that is due is added to it. -/
theorem step?_logged (h : Host σ) (d : Dispatch σ) :
    (d.logged log).step? h.logged =
      (d.step? h).map (·.logged (log ++ (d.due?.bind Effect.call?).toList)) := by
  cases hstep : d.step? h with
  | none =>
      have hidle := idle_of_step?_eq_none hstep
      simp [step?, logged, hidle]
  | some next =>
      cases step?_stepped hstep with
      | rested stage queue => simp [step?, logged, due?, stage, queue]
      | executed effect rest stage queue =>
          have hexecuted := execute_logged log h effect { d with queue := rest }
          rw [due?_of_head stage queue]
          simpa [step?, logged, stage, queue] using hexecuted
      | called call failure inner host stage resume =>
          have haccepted := accept_logged log h inner { d with host }
          rw [due?_of_calling stage]
          simpa [step?, logged, Host.logged, stage, resume] using haccepted
      | finished call failure host stage resume =>
          have hfinished := finish_logged log h call failure { d with host }
          rw [due?_of_calling stage]
          simpa [step?, logged, Host.logged, stage, resume] using hfinished

end

/-- The host is called for the effect that is taken out of the queue, and for nothing else. -/
theorem handed_eq (h : Host σ) (d : Dispatch σ) :
    d.handed h = (d.due?.bind Effect.call?).toList := by
  rw [handed, step?_logged]
  cases hstep : d.step? h with
  | none => simp [due?, idle_of_step?_eq_none hstep]
  | some next => simp [logged]

end Dispatch

end ResumableSession
