import ResumableSession.Proofs.Session.Changes
import ResumableSession.Proofs.Session.Welcomes

/-!
The opening and the closing of connections.

A session opens and closes its connections in turn, whatever happens to it.  Between two openings
there is a closing, so the session never has two connections at once.
-/

namespace ResumableSession

/-- Connections are opened and closed in turn.  At first there is one if `up`, and in the end if
`final`. -/
def Alternating (up : Bool) (effects : List Effect) (final : Bool) : Prop :=
  match effects with
  | [] => up = final
  | .openTransport :: rest => up = false ∧ Alternating true rest final
  | .closeTransport :: rest => up = true ∧ Alternating false rest final
  | .send _ :: rest | .scheduleReconnect _ :: rest | .stateChanged _ :: rest | .deliver _ :: rest
  | .report _ :: rest => Alternating up rest final

namespace Alternating

variable {up middle final other : Bool} {effects first second : List Effect}

theorem append_iff : Alternating up (first ++ second) final ↔
    ∃ middle, Alternating up first middle ∧ Alternating middle second final := by
  induction first generalizing up with
  | nil => simp [Alternating]
  | cons effect rest ih =>
      cases effect <;> simp only [List.cons_append, Alternating, ih, and_assoc, exists_and_left]

theorem final_eq (h : Alternating up effects final) (hother : Alternating up effects other) :
    final = other := by
  induction effects generalizing up with
  | nil => exact h.symm.trans hother
  | cons effect rest ih =>
      cases effect with
      | openTransport | closeTransport => exact ih h.2 hother.2
      | send message | scheduleReconnect delay | stateChanged status | deliver payload
      | report error => exact ih h hother

theorem exists_close (h : Alternating true effects final) (hopen : .openTransport ∈ effects) :
    ∃ earlier later, effects = earlier ++ .closeTransport :: later ∧
      .openTransport ∉ earlier := by
  induction effects with
  | nil => contradiction
  | cons effect rest ih =>
      cases effect with
      | openTransport => exact absurd h.1 Bool.noConfusion
      | closeTransport => exact ⟨[], rest, rfl, List.not_mem_nil⟩
      | send message | scheduleReconnect delay | stateChanged status | deliver payload
      | report error =>
          obtain ⟨earlier, later, rfl, hclosed⟩ := ih h (by simpa using hopen)
          exact ⟨_ :: earlier, later, rfl, by simpa using hclosed⟩

theorem of_other {effect : Effect} (hopen : effect ≠ .openTransport)
    (hclose : effect ≠ .closeTransport) : Alternating up [effect] up := by
  cases effect with
  | openTransport | closeTransport => contradiction
  | send message | scheduleReconnect delay | stateChanged status | deliver payload
  | report error => rfl

theorem of_talk {talk : List Effect} (plain : ∀ effect ∈ talk, effect.talk) :
    Alternating up talk up := by
  induction talk with
  | nil => rfl
  | cons effect rest ih =>
      obtain ⟨heffect, hrest⟩ := List.forall_mem_cons.mp plain
      cases effect with
      | openTransport | closeTransport => contradiction
      | send message | scheduleReconnect delay | stateChanged status | deliver payload
      | report error => exact ih hrest

end Alternating

theorem Change.alternating {delay : Nat} {moment : Moment} {status after : Status}
    {effects : List Effect} (h : Change delay moment status after effects) :
    Alternating status.live effects after.live := by
  cases h with
  | idles => rfl
  | talks live talk plain => exact .of_talk plain
  | opens unheard => exact ⟨rfl, rfl⟩
  | connects opened talk plain => exact Alternating.append_iff.mpr ⟨_, .of_talk plain, rfl⟩
  | attaches fresh talk plain heard =>
      refine Alternating.append_iff.mpr ⟨_, .of_talk plain, ?_⟩
      rcases fresh with rfl | rfl <;> rfl
  | ends live ending heard =>
      rw [live]
      cases ending <;> exact ⟨rfl, rfl⟩

/-! ## Sessions -/

namespace Session

theorem alternating_meetAll (moments : List Moment) (s : Session) :
    Alternating s.status.live (s.meetAll moments).2 (s.meetAll moments).1.status.live := by
  induction moments generalizing s with
  | nil => rfl
  | cons moment rest ih =>
      rw [meetAll_cons]
      exact Alternating.append_iff.mpr ⟨_, (meet_change moment s).alternating, ih _⟩

variable {s : Session}

theorem alternating_steps (h : Tidy s) (inputs : List Input) :
    Alternating s.status.live (s.steps inputs).2 (s.steps inputs).1.status.live := by
  obtain ⟨hfinal, heffects⟩ := Prod.mk.inj (steps_history h inputs)
  have hmoments := alternating_meetAll (s.history inputs) s.bare
  rw [← hfinal, ← heffects] at hmoments
  exact hmoments

theorem attempts_steps (h : Tidy s) (inputs : List Input) :
    s.attempts + (s.steps inputs).2.count .openTransport = (s.steps inputs).1.attempts := by
  obtain ⟨hfinal, heffects⟩ := Prod.mk.inj (steps_history h inputs)
  have hcount := count_open_meetAll (s.history inputs) s.bare
  rw [← hfinal, ← heffects] at hcount
  exact hcount

end Session

end ResumableSession
