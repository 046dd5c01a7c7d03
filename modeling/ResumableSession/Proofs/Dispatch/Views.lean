import ResumableSession.Proofs.Dispatch.Steps

/-!
Part of a host.

What the host is made to do follows from the effects alone, so what becomes of a part of it can be
told from the calls and from the code behind them.  It is enough to know what a single call makes of
that part, if it is not one in which notes are kept.
-/

namespace ResumableSession

/-- A part of the host that the calls change, and nothing else but the code behind them. -/
structure Host.View {σ τ : Type} (h : Host σ) (look : σ → τ) (enter : HostCall → τ → τ) : Prop where
  note : ∀ notice s, look (h.note notice s) = look s
  enter : ∀ call s, look (h.enter call s).2 = enter call (look s)
  leave : ∀ call s, look (h.leave call s) = look s

namespace Host.View

open Dispatch

variable {σ τ : Type} {h : Host σ} {look : σ → τ} {enter : HostCall → τ → τ}
  {d next : Dispatch σ} (hview : h.View look enter)

include hview

theorem accept (call : Call) (d : Dispatch σ) : look (d.accept h call).host = look d.host :=
  look_accept hview.note call d

theorem execute (effect : Effect) (d : Dispatch σ) :
    look (d.execute h effect).host =
      effect.call?.elim (look d.host) fun call => enter call (look d.host) := by
  cases effect with
  | openTransport | closeTransport | send message | deliver payload => exact hview.enter _ _
  | scheduleReconnect delay | stateChanged status =>
      exact (hview.enter _ _).trans (congrArg _ (hview.note _ _))
  | report error => exact hview.note _ _

theorem finish (call : HostCall) (failure : Option String) (d : Dispatch σ) :
    look (d.finish h call failure).host = look d.host := by
  cases failure with
  | none => exact hview.leave call _
  | some reason => exact (hview.note _ _).trans (hview.leave call _)

theorem step (hstep : d.step? h = some next) :
    (d.due? = none ∧ look next.host = look (h.resume d.session d.host).2) ∨
      look next.host =
        (d.due?.bind Effect.call?).elim (look d.host) fun call => enter call (look d.host) := by
  cases step?_stepped hstep with
  | rested stage queue => exact .inr (by simp [due?_of_rested stage queue])
  | executed effect rest stage queue =>
      rw [due?_of_head stage queue]
      exact .inr (hview.execute effect { d with queue := rest })
  | called call failure inner host stage resume =>
      rw [resume]
      exact .inl ⟨due?_of_calling stage, hview.accept inner { d with host }⟩
  | finished call failure host stage resume =>
      rw [resume]
      exact .inl ⟨due?_of_calling stage, hview.finish call failure { d with host }⟩

end Host.View

end ResumableSession
