import ResumableSession.Proofs.Dispatch.Steps

/-!
The end of the work.

The queue may grow while it is worked off.  A host may call back while an effect is carried out, and
a connection that could not be opened adds the effects of its loss.  Both are limited: the host runs
out of credit, and a loss opens no other connection.  Each call back costs one credit and asks for
one connection at most, so a call that comes from outside feeds the session with two inputs for each
credit at most, and with one for each opening that was waiting.  Their effects and those that were
waiting take two steps each.
-/

namespace ResumableSession

/-! ## Openings -/

namespace Session

theorem count_open_sends {α : Type} (message : α → ClientMessage) (entries : List α) :
    (entries.map fun entry => Effect.send (message entry)).count .openTransport = 0 := by
  simp [List.count_eq_zero]

theorem count_open_enter (status : Status) (s : Session) :
    (enter status s).2.count .openTransport = 0 := by
  unfold enter
  split <;> rfl

theorem count_open_dropConnection (cause : SessionError) (s : Session) :
    (s.dropConnection cause).2.count .openTransport = 0 := by
  simp [dropConnection, count_open_enter]

theorem count_open_handle (message : ServerMessage) (s : Session) :
    (s.handle message).2.count .openTransport = 0 := by
  cases message with
  | success sessionId requestCursor profile =>
      simp [handle, succeeded, count_open_enter, count_open_sends]
  | failure => simp [handle, refused, count_open_enter]
  | response response =>
      simp only [handle, responded]
      split <;> rfl

theorem count_open_consume (s : Session) : s.consume.2.count .openTransport = 0 := by
  induction s using consume.induct with
  | case1 s buffer hnext =>
      rw [consume_none hnext]
      rfl
  | case2 s line buffer hnext error hline =>
      rw [consume_some hnext, hline]
      exact count_open_dropConnection _ _
  | case3 s line buffer hnext message hline handled hrejected =>
      rw [consume_some hnext, hline]
      dsimp only
      rw [if_pos hrejected]
      exact count_open_handle _ _
  | case4 s line buffer hnext message hline handled hgoes ih =>
      rw [consume_some hnext, hline]
      dsimp only
      rw [if_neg hgoes, List.count_append, ih, count_open_handle]

theorem count_open_step_le (input : Input) (s : Session) :
    (s.step input).2.count .openTransport ≤ 1 := by
  have hconnect : s.connect.2.count .openTransport ≤ 1 := by
    unfold connect
    split
    · simp [count_open_enter]
    · exact Nat.zero_le _
  cases input with
  | start | connect => exact hconnect
  | opened =>
      simp only [step, opened]
      split
      · simp [count_open_enter, count_open_sends fun message => message]
      · exact Nat.zero_le _
  | lost cause => simp [Dispatch.lost_opens_nothing]
  | received fragment =>
      simp only [step, received]
      split <;> simp [count_open_consume]
  | request payload =>
      simp only [step, request]
      split <;> simp

end Session

namespace Dispatch

variable {σ : Type} {h : Host σ} {d e next : Dispatch σ} {input : Option Input}
  {inputs : List Input} {count : Nat}

/-! ## What a step costs -/

theorem Fed.chores (hfed : Fed input d e) (hstage : e.stage = d.stage) :
    e.chores = d.chores + 2 * (d.session.steps input.toList).2.length := by
  simp only [Dispatch.chores, hstage, hfed.queue, List.length_append]
  omega

theorem Fed.openings (hfed : Fed input d e) (hstage : e.stage = d.stage) :
    e.openings = d.openings + (d.session.steps input.toList).2.count .openTransport := by
  simp only [Dispatch.openings, hstage, hfed.queue, List.count_append]
  omega

/-- So many steps lead from one dispatcher to another and feed the session with these inputs.  The
inputs are paid for with the credit of the host and with the openings, the steps with the chores. -/
structure Paid (h : Host σ) (d : Dispatch σ) (count : Nat) (inputs : List Input) (e : Dispatch σ) :
    Prop where
  session : e.session = (d.session.steps inputs).1
  inputs_le : inputs.length + (2 * h.credit e.host + e.openings) ≤
    2 * h.credit d.host + d.openings
  steps_le : count + (e.chores + h.credit e.host) ≤
    d.chores + h.credit d.host + 2 * (d.session.steps inputs).2.length

theorem paid_called (call : HostCall) (failure : Option String) (inner : Call) (host : σ)
    (hstage : d.stage = .calling call failure)
    (hresume : h.resume d.session d.host = (some inner, host)) :
    Paid h d 1 ({ d with host }.input? h inner).toList ({ d with host }.accept h inner) := by
  -- A call back is paid for with the credit, also for the connection that it may ask for.
  have hfed := fed_accept h inner { d with host }
  have hbusy : ({ d with host }.accept h inner).stage = d.stage :=
    stage_accept (by simp [hstage])
  have hcredit : h.credit ({ d with host }.accept h inner).host < h.credit d.host := by
    refine Nat.lt_of_le_of_lt (credit_accept_le h inner _) ?_
    have hlt := h.credit_resume_lt d.session d.host (by rw [hresume]; rfl)
    rwa [hresume] at hlt
  have hopenings : ({ d with host }.accept h inner).openings =
      d.openings + (d.session.steps ({ d with host }.input? h inner).toList).2.count
        .openTransport := hfed.openings hbusy
  have hchores : ({ d with host }.accept h inner).chores =
      d.chores + 2 * (d.session.steps ({ d with host }.input? h inner).toList).2.length :=
    hfed.chores hbusy
  have hopens : ({ d with host }.input? h inner).toList.length +
      (d.session.steps ({ d with host }.input? h inner).toList).2.count .openTransport ≤ 2 := by
    cases { d with host }.input? h inner with
    | none => exact Nat.zero_le _
    | some input =>
        have hle := Session.count_open_step_le input d.session
        simp only [Option.toList_some, List.length_singleton, Session.steps, List.append_nil]
        omega
  refine ⟨hfed.session, ?_, ?_⟩ <;> omega

theorem paid_finished (call : HostCall) (failure : Option String) (host : σ)
    (hstage : d.stage = .calling call failure)
    (hresume : h.resume d.session d.host = (none, host)) :
    Paid h d 1 (failure.map fun _ => Input.lost .errored).toList
      ({ d with host }.finish h call failure) := by
  -- The loss of a connection that could not be opened is paid for with its opening.
  have hfed := fed_finish h call failure { d with host }
  have hcredit : h.credit host ≤ h.credit d.host := by
    have hle := h.credit_resume_le d.session d.host
    rwa [hresume] at hle
  have hleft : h.credit (h.leave call host) ≤ h.credit d.host :=
    Nat.le_trans (h.credit_leave_le call host) hcredit
  cases failure with
  | none =>
      refine ⟨hfed.session, ?_, ?_⟩
      · simp only [finish, Dispatch.openings, hstage, Option.map_none, Option.toList_none,
          List.length_nil]
        omega
      · simp only [finish, Dispatch.chores, hstage]
        omega
  | some reason =>
      have hnoted := Nat.le_trans (h.credit_note_le (.openFailed reason) (h.leave call host)) hleft
      refine ⟨hfed.session, ?_, ?_⟩
      · simp only [finish, feed, note, Dispatch.openings, hstage, List.count_append,
          lost_opens_nothing, Option.map_some, Option.toList_some, List.length_singleton]
        omega
      · simp only [finish, feed, note, Dispatch.chores, hstage, List.length_append,
          Option.map_some, Option.toList_some, Session.steps, List.append_nil]
        omega

theorem Stepped.paid (hstepped : Stepped h d next) : Paid h d 1 (d.fed? h).toList next := by
  cases hstepped with
  | rested stage queue =>
      rw [fed?_of_draining stage]
      refine ⟨rfl, ?_, ?_⟩
      · simp [Dispatch.openings, stage]
      · simp only [Dispatch.chores, stage]
        omega
  | executed effect rest stage queue =>
      obtain ⟨hcredit, hopenings, hchores⟩ :=
        execute_cost h effect { d with queue := rest } stage
      dsimp only at hcredit
      obtain ⟨hopens, hlong⟩ := worth_head queue
      rw [fed?_of_draining stage]
      refine ⟨(execute_frame h effect _).1, ?_, ?_⟩
      · simp only [Option.toList_none, List.length_nil]
        omega
      · omega
  | called call failure inner host stage resume =>
      rw [fed?_of_called stage resume]
      exact paid_called call failure inner host stage resume
  | finished call failure host stage resume =>
      rw [fed?_of_finished stage resume]
      exact paid_finished call failure host stage resume

/-! ## What the work costs -/

theorem Paid.nothing (h : Host σ) (d : Dispatch σ) : Paid h d 0 [] d where
  session := rfl
  inputs_le := by simp
  steps_le := by simp [Session.steps]

theorem Paid.trans {later : List Input} {more : Nat} (hfirst : Paid h d count inputs e)
    (hsecond : Paid h e more later next) : Paid h d (count + more) (inputs ++ later) next := by
  obtain ⟨hsession, hinputs, hsteps⟩ := hfirst
  obtain ⟨hlast, hlater, hmore⟩ := hsecond
  rw [hsession] at hlast hmore
  refine ⟨?_, ?_, ?_⟩
  · rw [hlast, Session.steps_append]
  · rw [List.length_append]
    omega
  · rw [Session.steps_append, List.length_append]
    omega

theorem paid_settle (h : Host σ) (d : Dispatch σ) :
    ∃ count inputs, d.settle h = d.advance h count ∧ Paid h d count inputs (d.settle h) ∧
      (d.settle h).stage = .idle := by
  -- By induction on the steps that `settle` takes until there is none.
  induction d using Dispatch.settle.induct h with
  | case1 d hstep =>
      rw [settle_of_none hstep]
      exact ⟨0, [], rfl, .nothing h d, idle_of_step?_eq_none hstep⟩
  | case2 d next hstep ih =>
      obtain ⟨count, inputs, hreached, hpaid, hidle⟩ := ih
      rw [settle_of_some hstep]
      refine ⟨1 + count, _, ?_, (step?_stepped hstep).paid.trans hpaid, hidle⟩
      rw [hreached, Nat.add_comm, advance, hstep]

/-- Every call returns, in any state and with any queue.  One that comes while the host is called
adds its effects to the queue, and that is all.  The work that one from outside starts comes to an
end, since each step makes less of it, and nothing is left in the queue. -/
theorem calls_return (h : Host σ) (d : Dispatch σ) (call : Call) :
    let begun := d.accept h call
    let done := d.perform h call
    (d.stage ≠ .idle → Fed (d.input? h call) d begun ∧ begun.stage = d.stage) ∧
      (∀ e next : Dispatch σ, e.step? h = some next →
        Prod.Lex (· < ·) (Prod.Lex (· < ·) (· < ·)) (next.remaining h) (e.remaining h)) ∧
      done.stage = .idle ∧ (begun.stage ≠ .idle → done.queue = []) ∧
      ∃ count inputs, done = begun.advance h count ∧ Paid h begun count inputs done := by
  intro begun done
  obtain ⟨count, inputs, hreached, hpaid, hidle⟩ := paid_settle h begun
  have hempty : begun.stage ≠ .idle → done.queue = [] := by
    intro hbusy
    obtain ⟨hqueue, -⟩ := settle_keeps (h := h) (d := begun)
      (fun d => d.stage = .idle → d.queue = [])
      (fun d next hstep _ => (step?_stepped hstep).idle) fun hstage => absurd hstage hbusy
    exact hqueue hidle
  exact ⟨fun hbusy => ⟨fed_accept h call d, stage_accept hbusy⟩, fun e next => step?_lt, hidle,
    hempty, count, inputs, hreached, hpaid⟩

def stubborn : Rehearsal :=
  { refuse := true
    reactions :=
      [{ cue := "refused", steps := [.call (.submit (.lost .errored)), .call (.submit .connect)] },
        { cue := "Disconnected", steps := [.call (.submit .connect)] },
        { cue := "reconnect", steps := [.call (.event 7 .opened), .call (.submit .start)] }] }

theorem stubborn_returns :
    let d : Dispatch Rehearsal :=
      { session := .new {}, queue := [.openTransport, .report .rejected], host := stubborn }
    let begun := d.accept Rehearsal.host (.submit .start)
    let done := d.perform Rehearsal.host (.submit .start)
    (begun.accept Rehearsal.host (.submit .connect)).stage = .draining ∧ done.stage = .idle ∧
      done.queue = [] ∧ done.host.log.count .refused = 4 ∧ done.session.attempts = 3 ∧
      ∃ count inputs, done = begun.advance Rehearsal.host count ∧
        Paid Rehearsal.host begun count inputs done ∧ inputs.length ≤ 12 := by
  intro d begun done
  obtain ⟨-, -, hidle, hqueue, count, inputs, hreached, hpaid⟩ :=
    calls_return Rehearsal.host d (.submit .start)
  obtain ⟨hbusy, -⟩ := calls_return Rehearsal.host begun (.submit .connect)
  have hwork : done = begun.advance Rehearsal.host 50 := settle_eq_advance (by decide +kernel)
  refine ⟨(hbusy (by decide)).2, hidle, hqueue (by decide), ?_, ?_, count, inputs, hreached, hpaid,
    ?_⟩
  · rw [hwork]
    decide +kernel
  · rw [hwork]
    decide +kernel
  · calc
      inputs.length ≤ inputs.length +
          (2 * Rehearsal.host.credit done.host + done.openings) := Nat.le_add_right _ _
      _ ≤ 2 * Rehearsal.host.credit begun.host + begun.openings := hpaid.inputs_le
      _ = 12 := by decide +kernel

end Dispatch

end ResumableSession
