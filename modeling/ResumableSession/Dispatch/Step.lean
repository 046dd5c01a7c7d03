import ResumableSession.Dispatch.Basic

/-!
The work of a dispatcher, step by step.

`step?` takes an effect out of the queue, or goes on with the call that carries one out.
`settle` goes on until there is nothing left to do.  That comes to an end although the queue may
grow on the way: calls back from the host use up its credit, and a failed attempt to open a
connection adds effects of which none opens another one.
-/

namespace ResumableSession.Dispatch

variable {σ : Type}

def feed (input : Input) (d : Dispatch σ) : Dispatch σ :=
  let (session, effects) := d.session.step input
  { d with session, queue := d.queue ++ effects }

def wake (d : Dispatch σ) : Dispatch σ :=
  match d.stage with
  | .idle => { d with stage := .draining }
  | .draining | .calling _ _ => d

@[simp] theorem host_wake (d : Dispatch σ) : d.wake.host = d.host := by
  unfold wake
  split <;> rfl

/-- Takes a call.  Events of a connection other than the present one are passed over. -/
def accept (h : Host σ) (call : Call) (d : Dispatch σ) : Dispatch σ :=
  match call with
  | .submit input => (d.feed input).wake
  | .event generation event =>
      if h.generation d.host = some generation then (d.feed event.input).wake
      else { d with host := h.note (.staleEvent generation event) d.host }

def note (h : Host σ) (notice : Notice) (d : Dispatch σ) : Dispatch σ :=
  { d with host := h.note notice d.host }

/-- Calls the host.  Only an attempt to open a connection can fail. -/
def callHost (h : Host σ) (call : HostCall) (d : Dispatch σ) : Dispatch σ :=
  let (failure, host) := h.enter call d.host
  { d with host, stage := .calling call (if call = .openTransport then failure else none) }

def execute (h : Host σ) (effect : Effect) (d : Dispatch σ) : Dispatch σ :=
  match effect with
  | .openTransport => d.callHost h .openTransport
  | .closeTransport => d.callHost h .closeTransport
  | .send message => d.callHost h (.send message.frame)
  | .scheduleReconnect delay =>
      (d.note h (.reconnectScheduled delay)).callHost h (.scheduleReconnect delay)
  | .stateChanged status => (d.note h (.stateChanged status)).callHost h (.stateChanged status)
  | .deliver payload => d.callHost h (.deliver payload)
  | .report error => d.note h (.reported error)

/-- Ends a call.  The session hears of a connection that could not be opened. -/
def finish (h : Host σ) (call : HostCall) (failure : Option String) (d : Dispatch σ) :
    Dispatch σ :=
  let d := { d with host := h.leave call d.host, stage := .draining }
  match failure with
  | none => d
  | some reason => (d.note h (.openFailed reason)).feed (.lost .errored)

def step? (h : Host σ) (d : Dispatch σ) : Option (Dispatch σ) :=
  match d.stage with
  | .idle => none
  | .draining =>
      match d.queue with
      | [] => some { d with stage := .idle }
      | effect :: queue => some ({ d with queue }.execute h effect)
  | .calling call failure =>
      match h.resume d.session d.host with
      | (some inner, host) => some ({ d with host }.accept h inner)
      | (none, host) => some ({ d with host }.finish h call failure)

/-! ## The end of the work -/

/-- Attempts to open a connection that are still to come or to be reported as failed. -/
def openings (d : Dispatch σ) : Nat :=
  d.queue.count .openTransport +
    match d.stage with
    | .calling _ (some _) => 1
    | .calling _ none | .draining | .idle => 0

/-- An effect in the queue needs two steps or more. -/
def chores (d : Dispatch σ) : Nat :=
  2 * d.queue.length +
    match d.stage with
    | .calling _ _ => 2
    | .draining => 1
    | .idle => 0

/-- What every step makes smaller. -/
def remaining (h : Host σ) (d : Dispatch σ) : Nat × Nat × Nat :=
  (h.credit d.host, d.openings, d.chores)

theorem remaining_lt {h : Host σ} {d e : Dispatch σ} (hcredit : h.credit d.host ≤ h.credit e.host)
    (hrest : d.openings < e.openings ∨ d.openings ≤ e.openings ∧ d.chores < e.chores) :
    Prod.Lex (· < ·) (Prod.Lex (· < ·) (· < ·)) (d.remaining h) (e.remaining h) := by
  rcases Nat.lt_or_eq_of_le hcredit with hcredit | hcredit
  · exact .left _ _ hcredit
  · simp only [remaining, hcredit]
    refine .right _ ?_
    rcases hrest with hopen | ⟨hopen, hchores⟩
    · exact .left _ _ hopen
    · rcases Nat.lt_or_eq_of_le hopen with hopen | hopen
      · exact .left _ _ hopen
      · rw [hopen]
        exact .right _ hchores

theorem lost_opens_nothing (cause : TransportError) (s : Session) :
    (s.step (.lost cause)).2.count .openTransport = 0 := by
  simp only [Session.step, Session.lost]
  split
  all_goals first
    | rfl
    | (simp only [Session.dropConnection, Session.enter]
       split <;> simp)

theorem credit_accept_le (h : Host σ) (call : Call) (d : Dispatch σ) :
    h.credit (d.accept h call).host ≤ h.credit d.host := by
  unfold accept
  split
  · rw [host_wake]
    exact Nat.le_refl _
  · split
    · rw [host_wake]
      exact Nat.le_refl _
    · exact h.credit_note_le _ _

theorem callHost_cost (h : Host σ) (call : HostCall) (effect : Effect) (d : Dispatch σ)
    (hstage : d.stage = .draining) (hopen : call = .openTransport → effect = .openTransport) :
    h.credit (d.callHost h call).host ≤ h.credit d.host ∧
      (d.callHost h call).openings ≤ d.openings + [effect].count .openTransport ∧
      (d.callHost h call).chores ≤ d.chores + 1 := by
  refine ⟨h.credit_enter_le _ _, ?_, ?_⟩
  · simp only [openings, callHost, hstage]
    by_cases hcall : call = .openTransport
    · rw [hopen hcall, if_pos hcall]
      split <;> simp
    · rw [if_neg hcall]
      simp
  · simp only [chores, callHost, hstage]
    omega

theorem execute_cost (h : Host σ) (effect : Effect) (d : Dispatch σ)
    (hstage : d.stage = .draining) :
    h.credit (d.execute h effect).host ≤ h.credit d.host ∧
      (d.execute h effect).openings ≤ d.openings + [effect].count .openTransport ∧
      (d.execute h effect).chores ≤ d.chores + 1 := by
  have noted (notice : Notice) := h.credit_note_le notice d.host
  cases effect with
  | openTransport => exact callHost_cost h _ _ d hstage fun _ => rfl
  | closeTransport => exact callHost_cost h _ _ d hstage nofun
  | send message => exact callHost_cost h _ _ d hstage nofun
  | deliver payload => exact callHost_cost h _ _ d hstage nofun
  | scheduleReconnect delay =>
      obtain ⟨hcredit, hrest⟩ :=
        callHost_cost h (.scheduleReconnect delay) (.scheduleReconnect delay)
          (d.note h (.reconnectScheduled delay)) hstage nofun
      exact ⟨Nat.le_trans hcredit (noted _), hrest⟩
  | stateChanged status =>
      obtain ⟨hcredit, hrest⟩ :=
        callHost_cost h (.stateChanged status) (.stateChanged status)
          (d.note h (.stateChanged status)) hstage nofun
      exact ⟨Nat.le_trans hcredit (noted _), hrest⟩
  | report error => exact ⟨noted _, Nat.le_refl _, Nat.le_succ _⟩

theorem worth_head {effect : Effect} {queue : List Effect} {e : Dispatch σ}
    (hwhole : e.queue = effect :: queue) :
    e.openings = openings { e with queue } + [effect].count .openTransport ∧
      e.chores = chores { e with queue } + 2 := by
  simp only [openings, chores, hwhole, List.count_cons, List.count_nil, List.length_cons]
  omega

theorem execute_lt (h : Host σ) (effect : Effect) (queue : List Effect) (e : Dispatch σ)
    (hwhole : e.queue = effect :: queue) (hstage : e.stage = .draining) :
    Prod.Lex (· < ·) (Prod.Lex (· < ·) (· < ·))
      (({ e with queue }.execute h effect).remaining h) (e.remaining h) := by
  obtain ⟨hcredit, hopenings, hchores⟩ := execute_cost h effect { e with queue } hstage
  obtain ⟨hopens, hlong⟩ := worth_head hwhole
  refine remaining_lt hcredit (.inr ⟨?_, ?_⟩) <;> omega

theorem finish_lt (h : Host σ) (call : HostCall) (failure : Option String) (d e : Dispatch σ)
    (hqueue : d.queue = e.queue) (hcredit : h.credit d.host ≤ h.credit e.host)
    (hstage : e.stage = .calling call failure) :
    Prod.Lex (· < ·) (Prod.Lex (· < ·) (· < ·))
      ((d.finish h call failure).remaining h) (e.remaining h) := by
  have left := Nat.le_trans (h.credit_leave_le call d.host) hcredit
  cases failure with
  | none =>
      refine remaining_lt left (.inr ⟨?_, ?_⟩)
      · simp [openings, finish, hqueue, hstage]
      · simp only [chores, finish, hqueue, hstage]
        omega
  | some reason =>
      refine remaining_lt (Nat.le_trans (h.credit_note_le _ _) left) (.inl ?_)
      simp only [openings, finish, feed, note, hqueue, hstage, List.count_append,
        lost_opens_nothing]
      omega

theorem step?_lt {h : Host σ} {d next : Dispatch σ} (hstep : d.step? h = some next) :
    Prod.Lex (· < ·) (Prod.Lex (· < ·) (· < ·)) (next.remaining h) (d.remaining h) := by
  unfold step? at hstep
  split at hstep
  · contradiction
  · next hstage =>
      split at hstep
      · next hqueue =>
          obtain rfl := Option.some.inj hstep
          refine remaining_lt (Nat.le_refl _) (.inr ⟨?_, ?_⟩)
          · simp [openings, hqueue]
          · simp [chores, hqueue, hstage]
      · next effect queue hqueue =>
          obtain rfl := Option.some.inj hstep
          exact execute_lt h effect queue d hqueue hstage
  · next call failure hstage =>
      split at hstep
      · next inner host hresume =>
          obtain rfl := Option.some.inj hstep
          refine .left _ _ (Nat.lt_of_le_of_lt (credit_accept_le h inner _) ?_)
          have := h.credit_resume_lt d.session d.host (by rw [hresume]; rfl)
          rw [hresume] at this
          exact this
      · next host hresume =>
          obtain rfl := Option.some.inj hstep
          refine finish_lt h call failure _ d rfl ?_ hstage
          have := h.credit_resume_le d.session d.host
          rw [hresume] at this
          exact this

def settle (h : Host σ) (d : Dispatch σ) : Dispatch σ :=
  match _ : d.step? h with
  | none => d
  | some next => next.settle h
  termination_by d.remaining h
  decreasing_by exact step?_lt ‹_›

def perform (h : Host σ) (call : Call) (d : Dispatch σ) : Dispatch σ :=
  (d.accept h call).settle h

end ResumableSession.Dispatch
