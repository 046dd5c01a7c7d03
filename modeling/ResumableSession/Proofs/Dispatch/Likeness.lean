import ResumableSession.Proofs.Dispatch.Steps

/-!
Hosts that look alike.

Some of what a host keeps may be its own affair.  If hosts that agree on all the rest answer every
call in the same way, and agree on all the rest again afterwards, then a dispatcher does the same
on each of them, however long it goes on.
-/

namespace ResumableSession

/-- Hosts that look alike cannot be told apart by a dispatcher. -/
structure Host.Overlooks {σ τ : Type} (h : Host σ) (look : σ → τ) : Prop where
  generation : ∀ s t, look s = look t → h.generation s = h.generation t
  note : ∀ notice s t, look s = look t → look (h.note notice s) = look (h.note notice t)
  enter : ∀ call s t, look s = look t →
    (h.enter call s).1 = (h.enter call t).1 ∧ look (h.enter call s).2 = look (h.enter call t).2
  resume : ∀ session s t, look s = look t →
    (h.resume session s).1 = (h.resume session t).1 ∧
      look (h.resume session s).2 = look (h.resume session t).2
  leave : ∀ call s t, look s = look t → look (h.leave call s) = look (h.leave call t)

theorem Host.Overlooks.resumed {σ τ : Type} {h : Host σ} {look : σ → τ} (hlook : h.Overlooks look)
    {session : Session} {s t after : σ} {call : Option Call} (hlike : look t = look s)
    (hresume : h.resume session s = (call, after)) :
    ∃ other, h.resume session t = (call, other) ∧ look other = look after := by
  obtain ⟨hcall, hafter⟩ := hlook.resume session t s hlike
  rw [hresume] at hcall hafter
  exact ⟨(h.resume session t).2, Prod.ext hcall rfl, hafter⟩

namespace Dispatch

variable {σ τ : Type} {h : Host σ} {look : σ → τ} {d e : Dispatch σ}

/-- The same dispatcher on a host that looks alike. -/
structure Alike (look : σ → τ) (d e : Dispatch σ) : Prop where
  session : e.session = d.session
  queue : e.queue = d.queue
  stage : e.stage = d.stage
  host : look e.host = look d.host

namespace Alike

theorem feed (hlike : Alike look d e) (input : Input) :
    Alike look (d.feed input) (e.feed input) := by
  obtain ⟨hsession, hqueue, hstage, hhost⟩ := hlike
  refine ⟨?_, ?_, hstage, hhost⟩ <;> simp [Dispatch.feed, hsession, hqueue]

theorem wake (hlike : Alike look d e) : Alike look d.wake e.wake := by
  unfold Dispatch.wake
  rw [hlike.stage]
  split
  · exact ⟨hlike.session, hlike.queue, rfl, hlike.host⟩
  · exact hlike
  · exact hlike

section

variable (hlook : h.Overlooks look)

include hlook

theorem note (hlike : Alike look d e) (notice : Notice) :
    Alike look (d.note h notice) (e.note h notice) :=
  ⟨hlike.session, hlike.queue, hlike.stage, hlook.note notice _ _ hlike.host⟩

theorem accept (hlike : Alike look d e) (call : Call) :
    Alike look (d.accept h call) (e.accept h call) := by
  cases call with
  | submit input => exact (hlike.feed input).wake
  | event generation event =>
      simp only [Dispatch.accept, hlook.generation _ _ hlike.host]
      split
      · exact (hlike.feed event.input).wake
      · exact hlike.note hlook (.staleEvent generation event)

theorem callHost (hlike : Alike look d e) (call : HostCall) :
    Alike look (d.callHost h call) (e.callHost h call) := by
  obtain ⟨hfailure, hhost⟩ := hlook.enter call _ _ hlike.host
  refine ⟨hlike.session, hlike.queue, ?_, hhost⟩
  simp only [Dispatch.callHost, hfailure]

theorem execute (hlike : Alike look d e) (effect : Effect) :
    Alike look (d.execute h effect) (e.execute h effect) := by
  cases effect with
  | openTransport | closeTransport | send message | deliver payload =>
      exact hlike.callHost hlook _
  | scheduleReconnect delay | stateChanged status => exact (hlike.note hlook _).callHost hlook _
  | report error => exact hlike.note hlook _

theorem finish (hlike : Alike look d e) (call : HostCall) (failure : Option String) :
    Alike look (d.finish h call failure) (e.finish h call failure) := by
  have hleft : Alike look { d with host := h.leave call d.host, stage := .draining }
      { e with host := h.leave call e.host, stage := .draining } :=
    ⟨hlike.session, hlike.queue, rfl, hlook.leave call _ _ hlike.host⟩
  cases failure with
  | none => exact hleft
  | some reason => exact (hleft.note hlook (.openFailed reason)).feed (.lost .errored)

theorem step (hlike : Alike look d e) {next : Dispatch σ} (hstep : d.step? h = some next) :
    ∃ other, e.step? h = some other ∧ Alike look next other := by
  cases step?_stepped hstep with
  | rested stage queue =>
      refine ⟨{ e with stage := .idle }, ?_, ⟨hlike.session, hlike.queue, rfl, hlike.host⟩⟩
      simp only [Dispatch.step?, hlike.stage, hlike.queue, stage, queue]
  | executed effect rest stage queue =>
      have hrest : Alike look { d with queue := rest } { e with queue := rest } :=
        ⟨hlike.session, rfl, hlike.stage, hlike.host⟩
      refine ⟨_, ?_, hrest.execute hlook effect⟩
      simp only [Dispatch.step?, hlike.stage, hlike.queue, stage, queue]
  | called call failure inner host stage resume =>
      obtain ⟨host', hresume, hhost⟩ := hlook.resumed hlike.host resume
      have hcalled : Alike look { d with host } { e with host := host' } :=
        ⟨hlike.session, hlike.queue, hlike.stage, hhost⟩
      refine ⟨_, ?_, hcalled.accept hlook inner⟩
      simp only [Dispatch.step?, hlike.stage, hlike.session, stage, hresume]
  | finished call failure host stage resume =>
      obtain ⟨host', hresume, hhost⟩ := hlook.resumed hlike.host resume
      have hleft : Alike look { d with host } { e with host := host' } :=
        ⟨hlike.session, hlike.queue, hlike.stage, hhost⟩
      refine ⟨_, ?_, hleft.finish hlook call failure⟩
      simp only [Dispatch.step?, hlike.stage, hlike.session, stage, hresume]

theorem settle (hlike : Alike look d e) : Alike look (d.settle h) (e.settle h) := by
  induction d using Dispatch.settle.induct h generalizing e with
  | case1 d hstep =>
      have hidle := hlike.stage.trans (idle_of_step?_eq_none hstep)
      rw [settle_of_none hstep, settle_of_idle hidle]
      exact hlike
  | case2 d next hstep ih =>
      obtain ⟨other, hother, hnext⟩ := hlike.step hlook hstep
      rw [settle_of_some hstep, settle_of_some hother]
      exact ih hnext

theorem perform (hlike : Alike look d e) (call : Call) :
    Alike look (d.perform h call) (e.perform h call) :=
  (hlike.accept hlook call).settle hlook

end

end Alike

end Dispatch

end ResumableSession
