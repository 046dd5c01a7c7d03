import ResumableSession.Proofs.Dispatch.Generations
import ResumableSession.Proofs.Dispatch.Wire
import ResumableSession.Proofs.Session.Graph

/-!
A dispatcher at rest.

While effects are waiting, the session is ahead of its host: it may have given up a connection that
the host still has, or wait for one that could not be opened.  When the work is done, the two agree
again, whatever was called in the meantime.  The host has a connection just when the session thinks
so, it was asked for as many connections as the session has attempted, and it was told the present
status last.
-/

namespace ResumableSession

/-- The status that a call to the host is about. -/
def HostCall.told? : HostCall → Option Status
  | .stateChanged status => some status
  | .openTransport | .closeTransport | .send _ | .scheduleReconnect _ | .deliver _ => none

theorem told_calls (effects : List Effect) :
    (effects.filterMap Effect.call?).filterMap HostCall.told? = told effects := by
  induction effects with
  | nil => rfl
  | cons effect rest ih =>
      cases effect with
      | stateChanged status => exact congrArg (status :: ·) ih
      | openTransport | closeTransport | send message | scheduleReconnect delay | deliver payload
      | report error => exact ih

/-! ## The last status that was told -/

theorem Leads.last_eq {next : Status → List Status} {first last : Status} {statuses : List Status}
    (h : Leads next first statuses last) : statuses.getLast?.getD first = last := by
  induction statuses generalizing first with
  | nil => exact h
  | cons status rest ih =>
      rw [List.getLast?_cons]
      exact ih h.2

namespace Session

variable {s : Session}

theorem last_told_meetAll (moments : List Moment) (s : Session) :
    (told (s.meetAll moments).2).getLast?.getD s.status = (s.meetAll moments).1.status := by
  induction moments generalizing s with
  | nil => rfl
  | cons moment rest ih =>
      have hfirst := (meet_change moment s).leads.last_eq
      have hrest := ih (s.meet moment).1
      rw [meetAll_cons, told_append, List.getLast?_append, ← hrest]
      cases (told ((s.meet moment).1.meetAll rest).2).getLast? with
      | none => exact hfirst
      | some status => rfl

theorem last_told_steps (h : Tidy s) (inputs : List Input) :
    (told (s.steps inputs).2).getLast?.getD s.status = (s.steps inputs).1.status := by
  obtain ⟨hfinal, heffects⟩ := Prod.mk.inj (steps_history h inputs)
  have hmoments := last_told_meetAll (s.history inputs) s.bare
  rw [← hfinal, ← heffects] at hmoments
  exact hmoments

theorem lost_not_live (cause : TransportError) (s : Session) :
    (s.step (.lost cause)).1.status.live = false := by
  simp only [step, lost]
  split
  all_goals simp_all [dropConnection_status, Status.live]

end Session

theorem Alternating.close_mem {effects : List Effect} (h : Alternating true effects false) :
    .closeTransport ∈ effects := by
  induction effects with
  | nil => contradiction
  | cons effect rest ih =>
      cases effect with
      | openTransport => exact absurd h.1 Bool.noConfusion
      | closeTransport => exact List.mem_cons_self
      | send message | scheduleReconnect delay | stateChanged status | deliver payload
      | report error => exact List.mem_cons_of_mem _ (ih h)

/-- A connection that could be opened is there. -/
def Host.Occupying {σ : Type} (h : Host σ) : Prop :=
  ∀ s, (h.enter .openTransport s).1 = none → (h.generation (h.enter .openTransport s).2).isSome

namespace Dispatch

variable {σ : Type} {h : Host σ} {start d next : Dispatch σ} {inputs : List Input}
  {taken : List Effect} {calls : List HostCall} {generations : List (Option Nat)}

theorem Ledger.perform (hledger : Ledger h start inputs taken calls generations d)
    (hidle : d.stage = .idle) (call : Call) :
    (∃ more later made further,
      Ledger h start (inputs ++ more) (taken ++ later) (calls ++ made) (generations ++ further)
        (d.perform h call)) ∧ (d.perform h call).stage = .idle := by
  refine settle_keeps (fun d => ∃ more later made further,
    Ledger h start (inputs ++ more) (taken ++ later) (calls ++ made) (generations ++ further) d)
    ?_ ?_
  · rintro d next hstep ⟨more, later, made, further, hrecord⟩
    have hnext := hrecord.step hstep
    rw [List.append_assoc, List.append_assoc, List.append_assoc, List.append_assoc] at hnext
    exact ⟨_, _, _, _, hnext⟩
  · refine ⟨(d.input? h call).toList, [], [], [], ?_⟩
    simpa using hledger.call hidle call

/-! ## Connections that are there -/

def Refused (d : Dispatch σ) : Prop :=
  ∃ call reason, d.stage = .calling call (some reason)

/-- What has become of a connection that was asked for and not closed since.  It is there, or it
could not be opened and the session is about to hear of it, or it is waiting to be closed. -/
def Accounted (h : Host σ) (d : Dispatch σ) : Prop :=
  (h.generation d.host).isSome ∨ d.Refused ∨ .closeTransport ∈ d.queue

theorem Accounted.mono {e : Dispatch σ} (haccounted : Accounted h d)
    (hgeneration : h.generation e.host = h.generation d.host) (hrefused : d.Refused → e.Refused)
    (hqueue : .closeTransport ∈ d.queue → .closeTransport ∈ e.queue) : Accounted h e := by
  rcases haccounted with hpresent | hunknown | hclose
  · rw [← hgeneration] at hpresent
    exact .inl hpresent
  · exact .inr (.inl (hrefused hunknown))
  · exact .inr (.inr (hqueue hclose))

theorem not_refused (hstage : d.stage = .idle ∨ d.stage = .draining) : ¬ d.Refused := by
  rintro ⟨call, reason, hcalling⟩
  rcases hstage with hstage | hstage <;> simp [hstage] at hcalling

theorem Accounted.opens (hoccupying : h.Occupying) (d : Dispatch σ) :
    Accounted h (d.execute h .openTransport) := by
  cases hfailure : (h.enter .openTransport d.host).1 with
  | none => exact .inl (hoccupying _ hfailure)
  | some reason => exact .inr (.inl ⟨.openTransport, reason, by simp [execute, callHost, hfailure]⟩)

theorem Accounted.executed (hslotted : h.Slotted) {effect : Effect} {rest : List Effect}
    (haccounted : Accounted h d) (stage : d.stage = .draining) (queue : d.queue = effect :: rest)
    (hopen : effect ≠ .openTransport) (hclose : effect ≠ .closeTransport) :
    Accounted h ({ d with queue := rest }.execute h effect) := by
  refine haccounted.mono (generation_execute hslotted hopen hclose _)
    (fun hrefused => absurd hrefused (not_refused (.inr stage))) fun hmem => ?_
  rw [queue] at hmem
  rw [(execute_frame h effect _).2.1]
  exact (List.mem_cons.mp hmem).resolve_left (Ne.symm hclose)

section

variable (hslotted : h.Slotted) (hoccupying : h.Occupying) (htidy : Session.Tidy start.session)
  (hempty : start.queue = []) (hdown : start.session.status.live = false)

include hslotted hoccupying htidy hempty hdown

theorem Ledger.accounted (hledger : Ledger h start inputs taken calls generations d)
    (hup : Alternating false taken true) : Accounted h d := by
  induction hledger with
  | start => contradiction
  | elsewhere ledger idle host kept ih => exact (ih hup).mono kept id id
  | @call inputs taken calls generations d ledger idle call ih =>
      exact (ih hup).mono (generation_accept hslotted call d)
        (fun hrefused => absurd hrefused (not_refused (.inl idle))) (mem_queue_accept call)
  | @step inputs taken calls generations d next ledger hstep ih =>
      obtain ⟨up, htaken, hwaiting⟩ := (ledger.step hstep).alternating htidy hempty
      rw [hdown] at htaken
      obtain rfl := htaken.final_eq hup
      cases step?_stepped hstep with
      | rested stage queue =>
          rw [due?_of_rested stage queue, Option.toList_none, List.append_nil] at hup
          exact (ih hup).mono rfl (fun hrefused => absurd hrefused (not_refused (.inr stage))) id
      | executed effect rest stage queue =>
          rw [due?_of_head stage queue] at hup
          by_cases hopen : effect = .openTransport
          · subst hopen
            exact Accounted.opens hoccupying _
          · obtain ⟨middle, hbefore, hafter⟩ := Alternating.append_iff.mp hup
            by_cases hclose : effect = .closeTransport
            · subst hclose
              exact absurd hafter.2 Bool.noConfusion
            · obtain rfl := (Alternating.of_other hopen hclose).final_eq hafter
              exact (ih hbefore).executed hslotted stage queue hopen hclose
      | called call failure inner host stage resume =>
          rw [due?_of_calling stage, Option.toList_none, List.append_nil] at hup
          have hresume := hslotted.resume d.session d.host
          rw [resume] at hresume
          refine (ih hup).mono ((generation_accept hslotted inner _).trans hresume) ?_
            (mem_queue_accept (d := { d with host }) inner)
          rintro ⟨hostCall, reason, hstage⟩
          exact ⟨hostCall, reason, (stage_accept (by simp [stage])).trans hstage⟩
      | finished call failure host stage resume =>
          rw [due?_of_calling stage, Option.toList_none, List.append_nil] at hup
          cases failure with
          | none =>
              have hresume := hslotted.resume d.session d.host
              rw [resume] at hresume
              refine (ih hup).mono ((generation_finish hslotted call none _).trans hresume) ?_ id
              rintro ⟨hostCall, reason, hstage⟩
              simp [stage] at hstage
          | some reason =>
              -- The session has just heard of it, and gives the connection up.
              refine .inr (.inr (Alternating.close_mem ?_))
              have hgivenUp := Session.lost_not_live .errored d.session
              rwa [← hgivenUp]

theorem Ledger.present_iff_live (hnone : h.generation start.host = none)
    (hledger : Ledger h start inputs taken calls generations d) (hidle : d.stage = .idle) :
    (h.generation d.host).isSome ↔ d.session.status.live := by
  have hrest := (hledger.trace.ordered hempty).idle hidle
  obtain ⟨up, htaken, hwaiting⟩ := hledger.alternating htidy hempty
  rw [hrest] at hwaiting
  obtain rfl : up = d.session.status.live := hwaiting
  constructor
  · intro hpresent
    obtain ⟨generation, hgeneration⟩ := Option.isSome_iff_exists.mp hpresent
    exact htaken.final_eq (hledger.present hslotted htidy hempty hnone generation hgeneration).1
  · intro hlive
    rw [hdown, hlive] at htaken
    rcases hledger.accounted hslotted hoccupying htidy hempty hdown htaken with
      hpresent | hrefused | hclose
    · exact hpresent
    · exact absurd hrefused (not_refused (.inl hidle))
    · rw [hrest] at hclose
      contradiction

end

/-! ## Agreement -/

/-- What a host that was called in a certain order and a session have in common. -/
structure Agrees (h : Host σ) (calls : List HostCall) (d : Dispatch σ) : Prop where
  present : (h.generation d.host).isSome ↔ d.session.status.live
  opened : calls.count .openTransport = d.session.attempts
  told : ∀ status, (calls.filterMap HostCall.told?).getLast? = some status →
    d.session.status = status

section

variable {config : Session.Config} {host : σ} (hslotted : h.Slotted) (hoccupying : h.Occupying)
  (hnone : h.generation host = none)

include hslotted hoccupying hnone

theorem Ledger.agrees
    (hledger : Ledger h { session := .new config, host } inputs taken calls generations d)
    (hidle : d.stage = .idle) : Agrees h calls d := by
  have htidy : Session.Tidy (.new config) := .new config
  have hordered := hledger.trace.ordered rfl
  have heffects := hordered.effects
  rw [hordered.idle hidle, List.append_nil] at heffects
  have hcalls : calls = ((Session.new config).steps inputs).2.filterMap Effect.call? := by
    rw [← heffects]
    exact hledger.trace.calls_eq
  constructor
  · exact hledger.present_iff_live hslotted hoccupying htidy rfl rfl hnone hidle
  · rw [hcalls, count_calls, hordered.session, ← Session.attempts_steps htidy]
    exact (Nat.zero_add _).symm
  · intro status hlast
    have htold := Session.last_told_steps htidy inputs
    rw [hcalls, told_calls] at hlast
    rw [hlast] at htold
    rw [hordered.session, ← htold]
    rfl

end

/-- Whenever a call from outside is over, the host and the session agree, however many connections
could not be opened and whatever the host has called in between.  Every call comes to an end. -/
theorem agree_at_rest (h : Host σ) (hslotted : h.Slotted) (hoccupying : h.Occupying)
    (config : Session.Config) (host : σ) (hnone : h.generation host = none) {inputs : List Input}
    {taken : List Effect} {calls : List HostCall} {generations : List (Option Nat)}
    {d : Dispatch σ}
    (hledger : Ledger h { session := .new config, host } inputs taken calls generations d)
    (hidle : d.stage = .idle) :
    Agrees h calls d ∧
      ∀ call, (d.perform h call).stage = .idle ∧
        ∃ more later made further,
          Ledger h { session := .new config, host } (inputs ++ more) (taken ++ later)
            (calls ++ made) (generations ++ further) (d.perform h call) ∧
          Agrees h (calls ++ made) (d.perform h call) := by
  refine ⟨hledger.agrees hslotted hoccupying hnone hidle, fun call => ?_⟩
  obtain ⟨⟨more, later, made, further, hperformed⟩, hrest⟩ := hledger.perform hidle call
  have hagrees := hperformed.agrees hslotted hoccupying hnone hrest
  exact ⟨hrest, more, later, made, further, hperformed, hagrees⟩

theorem occupying_rehearsal : Rehearsal.host.Occupying := by
  intro r hopened
  by_cases hrefuse : r.refuse
  · simp [Rehearsal.host, Rehearsal.enter, hrefuse] at hopened
  · simp [Rehearsal.host, Rehearsal.enter, hrefuse, Rehearsal.giveCue, Rehearsal.record]

/-- A host that cannot open a connection at first.  The session is asked to connect again before it
hears of that, and once more when it should wait. -/
def hindered : Rehearsal :=
  { refuse := true
    reactions :=
      [{ cue := "refused", steps := [.call (.submit (.lost .errored)), .call (.submit .connect)] },
        { cue := "reconnect", steps := [.refuse false, .call (.submit .connect)] }] }

def hinderedStart : Dispatch Rehearsal :=
  Dispatch.perform Rehearsal.host (.submit .start) { session := .new {}, host := hindered }

theorem hindered_agrees :
    (∃ inputs taken calls generations,
      Ledger Rehearsal.host { session := .new {}, host := hindered } inputs taken calls generations
        hinderedStart ∧
      Agrees Rehearsal.host calls hinderedStart) ∧
    hinderedStart.stage = .idle ∧ hinderedStart.session.attempts = 3 ∧
      hinderedStart.session.status = .awaitingConnect := by
  obtain ⟨-, hperform⟩ := agree_at_rest Rehearsal.host slotted_rehearsal occupying_rehearsal {}
    hindered rfl .start rfl
  obtain ⟨hidle, more, later, made, further, hstarted⟩ := hperform (.submit .start)
  have hwork : hinderedStart = (Dispatch.accept Rehearsal.host (.submit .start)
      { session := .new {}, host := hindered }).advance Rehearsal.host 40 :=
    settle_eq_advance (by decide +kernel)
  refine ⟨⟨_, _, _, _, hstarted⟩, hidle, ?_, ?_⟩
  · rw [hwork]
    decide +kernel
  · rw [hwork]
    decide +kernel

end Dispatch

end ResumableSession
