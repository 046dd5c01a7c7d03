import ResumableSession.Proofs.Dispatch.Steps

/-!
The order in which effects are carried out.

A `Trace` follows a dispatcher through its calls and its steps.  It keeps the inputs that the
session was fed with, from outside, by the host while it was carrying out an effect, or because a
connection could not be opened; it keeps the effects that were taken out of the queue; and it keeps
the calls that the host got.  The effects that were taken out and those still in the queue are the
effects of the inputs, in the order of the inputs, and the calls are those for the effects that were
taken out, in the same order.
-/

namespace ResumableSession

namespace Dispatch

variable {σ : Type} {h : Host σ} {start d next : Dispatch σ} {inputs : List Input}
  {taken : List Effect} {calls : List HostCall}

/-! ## Traces -/

/-- What can become of a dispatcher.  While it is idle, the host may change by itself, and calls
come from outside. -/
inductive Trace (h : Host σ) (start : Dispatch σ) :
    List Input → List Effect → List HostCall → Dispatch σ → Prop where
  | start : Trace h start [] [] [] start
  | elsewhere {inputs : List Input} {taken : List Effect} {calls : List HostCall} {d : Dispatch σ}
      (trace : Trace h start inputs taken calls d) (idle : d.stage = .idle) (host : σ) :
      Trace h start inputs taken calls { d with host }
  | call {inputs : List Input} {taken : List Effect} {calls : List HostCall} {d : Dispatch σ}
      (trace : Trace h start inputs taken calls d) (idle : d.stage = .idle) (call : Call) :
      Trace h start (inputs ++ (d.input? h call).toList) taken calls (d.accept h call)
  | step {inputs : List Input} {taken : List Effect} {calls : List HostCall}
      {d next : Dispatch σ} (trace : Trace h start inputs taken calls d)
      (hstep : d.step? h = some next) :
      Trace h start (inputs ++ (d.fed? h).toList) (taken ++ d.due?.toList)
        (calls ++ d.handed h) next

structure Ordered (start : Dispatch σ) (inputs : List Input) (taken : List Effect)
    (d : Dispatch σ) : Prop where
  session : d.session = (start.session.steps inputs).1
  effects : taken ++ d.queue = (start.session.steps inputs).2
  idle : d.stage = .idle → d.queue = []

theorem Ordered.more {input : Option Input} {due : List Effect}
    (hordered : Ordered start inputs taken d)
    (hsession : next.session = (d.session.steps input.toList).1)
    (hqueue : due ++ next.queue = d.queue ++ (d.session.steps input.toList).2)
    (hidle : next.stage = .idle → next.queue = []) :
    Ordered start (inputs ++ input.toList) (taken ++ due) next where
  session := by rw [hsession, hordered.session, Session.steps_append]
  effects := by
    rw [List.append_assoc, hqueue, ← List.append_assoc, hordered.effects, hordered.session,
      Session.steps_append]
  idle := hidle

theorem Trace.ordered (hstart : start.queue = []) (htrace : Trace h start inputs taken calls d) :
    Ordered start inputs taken d := by
  induction htrace with
  | start =>
      have heffects : [] ++ start.queue = (start.session.steps []).2 := by
        simp [hstart, Session.steps]
      exact ⟨rfl, heffects, fun _ => hstart⟩
  | elsewhere trace idle host ih => exact ⟨ih.session, ih.effects, ih.idle⟩
  | @call inputs taken calls d trace idle call ih =>
      have hfed := fed_accept h call d
      have hidle (hstage : (d.accept h call).stage = .idle) : (d.accept h call).queue = [] := by
        rw [(accept_idle hstage).2]
        exact ih.idle idle
      have hordered : Ordered start (inputs ++ (d.input? h call).toList) (taken ++ [])
          (d.accept h call) :=
        ih.more hfed.session hfed.queue hidle
      rwa [List.append_nil] at hordered
  | step trace hstep ih =>
      have hstepped := step?_stepped hstep
      obtain ⟨hsession, hqueue⟩ := hstepped.effects
      exact ih.more hsession hqueue hstepped.idle

theorem Trace.calls_eq (htrace : Trace h start inputs taken calls d) :
    calls = taken.filterMap Effect.call? := by
  induction htrace with
  | start => rfl
  | elsewhere trace idle host ih => exact ih
  | call trace idle call ih => exact ih
  | @step inputs taken calls d next trace hstep ih =>
      rw [List.filterMap_append, ← ih, handed_eq]
      cases d.due? with
      | none => rfl
      | some effect => cases effect <;> rfl

theorem Trace.settle (htrace : Trace h start inputs taken calls d) :
    (∃ more later further, Trace h start (inputs ++ more) (taken ++ later) (calls ++ further)
        (d.settle h)) ∧ (d.settle h).stage = .idle := by
  refine settle_keeps (fun d => ∃ more later further,
    Trace h start (inputs ++ more) (taken ++ later) (calls ++ further) d) ?_ ?_
  · rintro d next hstep ⟨more, later, further, hsteps⟩
    have hnext := hsteps.step hstep
    rw [List.append_assoc, List.append_assoc, List.append_assoc] at hnext
    exact ⟨_, _, _, hnext⟩
  · exact ⟨[], [], [], by simpa using htrace⟩

/-- At every moment, the effects taken out so far and those in the queue are the effects of the
inputs so far, in their order, and the host has been called for those that were taken out, in the
same order.  A call from outside comes to an end, and all effects have been taken out by then. -/
theorem effects_in_order (h : Host σ) (session : Session) (host : σ) {inputs : List Input}
    {taken : List Effect} {calls : List HostCall} {d : Dispatch σ}
    (htrace : Trace h { session, host } inputs taken calls d) :
    taken ++ d.queue = (session.steps inputs).2 ∧ d.session = (session.steps inputs).1 ∧
      calls = taken.filterMap Effect.call? ∧
      (d.stage = .idle → d.queue = [] ∧
        ∀ call, ∃ more,
          let effects := (session.steps (inputs ++ more)).2
          Trace h { session, host } (inputs ++ more) effects (effects.filterMap Effect.call?)
              (d.perform h call) ∧
            (d.perform h call).queue = [] ∧ (d.perform h call).stage = .idle) := by
  have hordered := htrace.ordered rfl
  refine ⟨hordered.effects, hordered.session, htrace.calls_eq,
    fun hidle => ⟨hordered.idle hidle, fun call => ?_⟩⟩
  obtain ⟨⟨more, later, further, hsettled⟩, hend⟩ := (htrace.call hidle call).settle
  have hfinal := hsettled.ordered rfl
  have hempty := hfinal.idle hend
  have heffects := hfinal.effects
  rw [hempty, List.append_nil, List.append_assoc] at heffects
  rw [hsettled.calls_eq, heffects, List.append_assoc] at hsettled
  exact ⟨_, hsettled, hempty, hend⟩

/-- A host that fails to open a connection, and has the session send a request before it says
so. -/
def refusing : Rehearsal :=
  { refuse := true
    reactions := [{ cue := "refused", steps := [.call (.submit (.request .null))] }] }

theorem refusing_in_order :
    ∃ d : Dispatch Rehearsal,
      Trace Rehearsal.host { session := .new {}, host := refusing }
          [.start, .request .null, .lost .errored] [.stateChanged .awaitingConnect, .openTransport]
          [.stateChanged .awaitingConnect, .openTransport] d ∧
        [.stateChanged .awaitingConnect, .openTransport] ++ d.queue =
          ((Session.new {}).steps [.start, .request .null, .lost .errored]).2 ∧
        d.session = ((Session.new {}).steps [.start, .request .null, .lost .errored]).1 ∧
        d.queue.length = 4 := by
  have hstart : Trace Rehearsal.host { session := .new {}, host := refusing } [] [] [] _ := .start
  have hcalled := hstart.call rfl (.submit .start)
  have hentered := hcalled.step rfl
  have hleft := hentered.step rfl
  have hrefused := hleft.step rfl
  have hrequested := hrefused.step rfl
  have hlost := hrequested.step rfl
  obtain ⟨heffects, hsession, -⟩ := effects_in_order Rehearsal.host (.new {}) refusing hlost
  exact ⟨_, hlost, heffects, hsession, rfl⟩

end Dispatch

end ResumableSession
