import ResumableSession.Dispatch.Notice
import ResumableSession.Session.Step

/-!
Carrying out the effects of a session.

Effects are carried out by a host, one at a time, and the host may feed the session with new
inputs before it is done with one.  So the effects wait in a queue.  New ones join it at the end,
whoever caused them, and no effect overtakes another.
-/

namespace ResumableSession

inductive HostCall where
  | openTransport
  | closeTransport
  | send (text : String)
  | scheduleReconnect (delay : Nat)
  | stateChanged (status : Status)
  | deliver (payload : Json)
  deriving DecidableEq, Repr

inductive Call where
  | submit (input : Input)
  /-- Something happened to the connection of the given generation. -/
  | event (generation : Nat) (event : TransportEvent)
  deriving DecidableEq, Repr

/--
Where effects are carried out.

A call starts with `enter`, which says why it failed if it did.  Then `resume` runs the code
behind the call up to the next place where it calls the dispatcher, and again, until there is no
such place any more; then `leave` ends the call.  While it runs, that code can look at the
session.

The code calls the dispatcher only finitely often in all.  `credit` is a bound on how often.
-/
structure Host (σ : Type) where
  /-- The generation of the connection, if there is one. -/
  generation : σ → Option Nat
  note : Notice → σ → σ
  enter : HostCall → σ → Option String × σ
  resume : Session → σ → Option Call × σ
  leave : HostCall → σ → σ
  credit : σ → Nat
  credit_note_le : ∀ notice s, credit (note notice s) ≤ credit s
  credit_enter_le : ∀ call s, credit (enter call s).2 ≤ credit s
  credit_resume_le : ∀ session s, credit (resume session s).2 ≤ credit s
  credit_resume_lt : ∀ session s,
    (resume session s).1.isSome → credit (resume session s).2 < credit s
  credit_leave_le : ∀ call s, credit (leave call s) ≤ credit s

inductive Stage where
  | idle
  /-- The next effect in the queue is due. -/
  | draining
  /-- The host has been called.  It may have failed to open a connection. -/
  | calling (call : HostCall) (failure : Option String)
  deriving DecidableEq, Repr

structure Dispatch (σ : Type) where
  session : Session
  queue : List Effect := []
  stage : Stage := .idle
  host : σ
  deriving DecidableEq, Repr

end ResumableSession
