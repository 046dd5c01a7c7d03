import ResumableSession.Proofs.Dispatch.Fifo
import ResumableSession.Proofs.Session.Alternation

/-!
The connections that events are about.

A host gives a number, its generation, to each connection that it opens, and a dispatcher takes
events of the present generation only.  That generation is the one of the connection that was opened
last.  The session may be ahead of the host, though: while effects are waiting, it can have given up
the connection and have asked for another one, and then an event of the old connection is taken for
one of the new connection.  `acting_event_last` says that this is the only way in which an event
can go wrong, and `late_event_connects` that it happens.
-/

namespace ResumableSession

/-! ## Hosts -/

/-- Nothing but the opening and the closing of connections changes the present generation.  There
is none once the connection has been closed, and an attempt that fails does not bring one about. -/
structure Host.Slotted {σ : Type} (h : Host σ) : Prop where
  note : ∀ notice s, h.generation (h.note notice s) = h.generation s
  resume : ∀ session s, h.generation (h.resume session s).2 = h.generation s
  leave : ∀ call s, h.generation (h.leave call s) = h.generation s
  close : ∀ s, h.generation (h.enter .closeTransport s).2 = none
  refuse : ∀ s generation, (h.enter .openTransport s).1.isSome →
    h.generation (h.enter .openTransport s).2 = some generation →
    h.generation s = some generation
  other : ∀ call s, call ≠ .openTransport → call ≠ .closeTransport →
    h.generation (h.enter call s).2 = h.generation s

/-- The generation of the connection that is opened, if it can be opened. -/
def Host.assigned? {σ : Type} (h : Host σ) (s : σ) : Option Nat :=
  let (failure, opened) := h.enter .openTransport s
  if failure.isSome then none else h.generation opened

namespace Dispatch

variable {σ : Type} {h : Host σ} {start d next : Dispatch σ} {inputs : List Input}
  {taken : List Effect} {calls : List HostCall} {generations : List (Option Nat)}
  {generation : Nat}

/-! ## Connections on record -/

/-- What can become of a dispatcher, together with the generations of its connections, in the order
of their opening.  While the dispatcher is idle, its host keeps the present generation. -/
inductive Ledger (h : Host σ) (start : Dispatch σ) :
    List Input → List Effect → List HostCall → List (Option Nat) → Dispatch σ → Prop where
  | start : Ledger h start [] [] [] [] start
  | elsewhere {inputs : List Input} {taken : List Effect} {calls : List HostCall}
      {generations : List (Option Nat)} {d : Dispatch σ}
      (ledger : Ledger h start inputs taken calls generations d) (idle : d.stage = .idle)
      (host : σ) (kept : h.generation host = h.generation d.host) :
      Ledger h start inputs taken calls generations { d with host }
  | call {inputs : List Input} {taken : List Effect} {calls : List HostCall}
      {generations : List (Option Nat)} {d : Dispatch σ}
      (ledger : Ledger h start inputs taken calls generations d) (idle : d.stage = .idle)
      (call : Call) :
      Ledger h start (inputs ++ (d.input? h call).toList) taken calls generations
        (d.accept h call)
  | step {inputs : List Input} {taken : List Effect} {calls : List HostCall}
      {generations : List (Option Nat)} {d next : Dispatch σ}
      (ledger : Ledger h start inputs taken calls generations d) (hstep : d.step? h = some next) :
      Ledger h start (inputs ++ (d.fed? h).toList) (taken ++ d.due?.toList) (calls ++ d.handed h)
        (generations ++ if d.due? = some .openTransport then [h.assigned? d.host] else []) next

theorem Ledger.trace (hledger : Ledger h start inputs taken calls generations d) :
    Trace h start inputs taken calls d := by
  induction hledger with
  | start => exact .start
  | elsewhere ledger idle host kept ih => exact ih.elsewhere idle host
  | call ledger idle call ih => exact ih.call idle call
  | step ledger hstep ih => exact ih.step hstep

theorem Ledger.length_eq (hledger : Ledger h start inputs taken calls generations d) :
    generations.length = taken.count .openTransport := by
  induction hledger with
  | start => rfl
  | elsewhere ledger idle host kept ih => exact ih
  | call ledger idle call ih => exact ih
  | @step inputs taken calls generations d next ledger hstep ih =>
      rw [List.length_append, List.count_append, ih]
      cases hdue : d.due? with
      | none => rfl
      | some effect => by_cases heffect : effect = .openTransport <;> simp [heffect]

/-! ## The present generation -/

section

variable (hslotted : h.Slotted)

include hslotted

theorem generation_accept (call : Call) (d : Dispatch σ) :
    h.generation (d.accept h call).host = h.generation d.host :=
  look_accept hslotted.note call d

theorem generation_finish (call : HostCall) (failure : Option String) (d : Dispatch σ) :
    h.generation (d.finish h call failure).host = h.generation d.host := by
  cases failure with
  | none => exact hslotted.leave _ _
  | some reason => exact (hslotted.note _ _).trans (hslotted.leave _ _)

theorem generation_execute {effect : Effect} (hopen : effect ≠ .openTransport)
    (hclose : effect ≠ .closeTransport) (d : Dispatch σ) :
    h.generation (d.execute h effect).host = h.generation d.host := by
  cases effect with
  | openTransport | closeTransport => contradiction
  | send message | deliver payload => exact hslotted.other _ _ (by simp) (by simp)
  | scheduleReconnect delay | stateChanged status =>
      exact (hslotted.other _ _ (by simp) (by simp)).trans (hslotted.note _ _)
  | report error => exact hslotted.note _ _

theorem Stepped.slot (hstepped : Stepped h d next) :
    h.generation next.host = h.generation d.host ∧ d.due? ≠ some .openTransport ∧
        d.due? ≠ some .closeTransport ∨
      d.due? = some .openTransport ∧ next.host = (h.enter .openTransport d.host).2 ∨
      d.due? = some .closeTransport ∧ h.generation next.host = none := by
  cases hstepped with
  | rested stage queue => simp [due?, stage, queue]
  | executed effect rest stage queue =>
      rw [due?_of_head stage queue]
      by_cases hopen : effect = .openTransport
      · subst hopen
        exact .inr (.inl ⟨rfl, rfl⟩)
      · by_cases hclose : effect = .closeTransport
        · subst hclose
          exact .inr (.inr ⟨rfl, hslotted.close _⟩)
        · exact .inl ⟨generation_execute hslotted hopen hclose _, by simpa using hopen,
            by simpa using hclose⟩
  | called call failure inner host stage resume =>
      have hresume := hslotted.resume d.session d.host
      rw [resume] at hresume
      refine .inl ⟨(generation_accept hslotted inner _).trans hresume, ?_, ?_⟩ <;>
        simp [due?, stage]
  | finished call failure host stage resume =>
      have hresume := hslotted.resume d.session d.host
      rw [resume] at hresume
      refine .inl ⟨(generation_finish hslotted call failure _).trans hresume, ?_, ?_⟩ <;>
        simp [due?, stage]

end

def Present (h : Host σ) (start : Dispatch σ) (taken : List Effect)
    (generations : List (Option Nat)) (host : σ) : Prop :=
  ∀ generation, h.generation host = some generation →
    Alternating start.session.status.live taken true ∧
      generations.getLast? = some (some generation)

theorem Ledger.alternating (htidy : Session.Tidy start.session) (hempty : start.queue = [])
    (hledger : Ledger h start inputs taken calls generations d) :
    ∃ up, Alternating start.session.status.live taken up ∧
      Alternating up d.queue d.session.status.live := by
  have hordered := hledger.trace.ordered hempty
  have halternating := Session.alternating_steps htidy inputs
  rw [← hordered.effects, ← hordered.session] at halternating
  exact Alternating.append_iff.mp halternating

theorem Ledger.present (hslotted : h.Slotted) (htidy : Session.Tidy start.session)
    (hempty : start.queue = []) (hnone : h.generation start.host = none)
    (hledger : Ledger h start inputs taken calls generations d) :
    Present h start taken generations d.host := by
  induction hledger with
  | start => simp [Present, hnone]
  | elsewhere ledger idle host kept ih => simpa [Present, kept] using ih
  | call ledger idle call ih => simpa [Present, generation_accept hslotted] using ih
  | @step inputs taken calls generations d next ledger hstep ih =>
      intro generation hgeneration
      rcases (step?_stepped hstep).slot hslotted with
        ⟨hsame, hopen, hclose⟩ | ⟨hopen, hentered⟩ | ⟨hclose, hclosed⟩
      · rw [hsame] at hgeneration
        obtain ⟨htaken, hlast⟩ := ih generation hgeneration
        rw [if_neg hopen, List.append_nil]
        refine ⟨Alternating.append_iff.mpr ⟨true, htaken, ?_⟩, hlast⟩
        cases hdue : d.due? with
        | none => rfl
        | some effect =>
            rw [hdue] at hopen hclose
            exact .of_other (by simpa using hopen) (by simpa using hclose)
      · -- No generation was present before, since the connections alternate.
        obtain ⟨up, htaken, -⟩ := (ledger.step hstep).alternating htidy hempty
        rw [hopen] at htaken ⊢
        obtain ⟨middle, hbefore, rfl, rfl⟩ := Alternating.append_iff.mp htaken
        have habsent : h.generation d.host ≠ some generation := fun hpresent =>
          Bool.noConfusion (hbefore.final_eq (ih generation hpresent).1)
        rw [hentered] at hgeneration
        have hsucceeded : (h.enter .openTransport d.host).1.isSome = false :=
          Bool.eq_false_iff.mpr fun hfailed =>
            habsent (hslotted.refuse _ _ hfailed hgeneration)
        refine ⟨htaken, ?_⟩
        simp [Host.assigned?, hsucceeded, hgeneration]
      · rw [hclosed] at hgeneration
        contradiction

/-! ## Events -/

/-- The calls that a dispatcher can get, with the host that it finds. -/
inductive Called (h : Host σ) (d : Dispatch σ) : Call → σ → Prop where
  | outside (call : Call) (idle : d.stage = .idle) : Called h d call d.host
  | inside (hostCall : HostCall) (failure : Option String) (call : Call) (host : σ)
      (stage : d.stage = .calling hostCall failure)
      (resume : h.resume d.session d.host = (some call, host)) : Called h d call host

/-- Something comes of the call. -/
def Acts (h : Host σ) (call : Call) (d : Dispatch σ) : Prop :=
  (d.accept h call).session ≠ d.session ∨ (d.accept h call).queue ≠ d.queue

theorem Acts.present {event : TransportEvent} (hacts : Acts h (.event generation event) d) :
    h.generation d.host = some generation := by
  by_contra hstale
  have haccept : d.accept h (.event generation event) =
      d.note h (.staleEvent generation event) := if_neg hstale
  simp [Acts, haccept, note] at hacts

theorem index_eq {i : Nat} (hunique : (generations.filterMap id).Nodup)
    (hlast : generations.getLast? = some (some generation))
    (hindex : generations[i]? = some (some generation)) : i + 1 = generations.length := by
  obtain ⟨earlier, rfl⟩ := List.getLast?_eq_some_iff.mp hlast
  rw [List.filterMap_append] at hunique
  have hnew : some generation ∉ earlier := fun hmem =>
    (List.nodup_append.mp hunique).2.2 generation
      (List.mem_filterMap.mpr ⟨some generation, hmem, rfl⟩) generation (by simp) rfl
  rcases Nat.lt_trichotomy i earlier.length with hless | hsame | hmore
  · rw [List.getElem?_append_left hless] at hindex
    exact absurd (List.mem_of_getElem? hindex) hnew
  · simp [hsame]
  · rw [List.getElem?_eq_none (by simp; omega)] at hindex
    contradiction

/-- An event of which something comes is about the connection that was opened last.  That is the
one that the session has asked for last, unless another one is still waiting to be opened; then the
present one is waiting to be closed before it, and the dispatcher is not idle.  If the host gives no
generation twice, the event is about no earlier connection. -/
theorem acting_event_last (h : Host σ) (hslotted : h.Slotted) (config : Session.Config)
    (before : List Input) (host : σ) (hnone : h.generation host = none) {inputs : List Input}
    {taken : List Effect} {calls : List HostCall} {generations : List (Option Nat)}
    {d : Dispatch σ}
    (hledger : Ledger h { session := ((Session.new config).steps before).1, host } inputs taken
      calls generations d)
    {generation : Nat} {event : TransportEvent} {now : σ}
    (hcalled : Called h d (.event generation event) now)
    (hacts : Acts h (.event generation event) { d with host := now }) :
    generations.getLast? = some (some generation) ∧
    ((Session.new config).steps before).1.attempts + generations.length +
      d.queue.count .openTransport = d.session.attempts ∧
    (.openTransport ∈ d.queue → ∃ earlier later,
      d.queue = earlier ++ .closeTransport :: later ∧ .openTransport ∉ earlier) ∧
    (d.stage = .idle → d.queue = []) ∧
    ((generations.filterMap id).Nodup →
      ∀ i, generations[i]? = some (some generation) → i + 1 = generations.length) := by
  have htidy : Session.Tidy ((Session.new config).steps before).1 :=
    (Session.Tidy.new config).steps before
  have hordered := hledger.trace.ordered rfl
  have hpresent : h.generation d.host = some generation := by
    have hnow : h.generation now = some generation := hacts.present
    cases hcalled with
    | outside call idle => exact hnow
    | inside hostCall failure call host stage resume =>
        have hresume := hslotted.resume d.session d.host
        rw [resume] at hresume
        exact hresume.symm.trans hnow
  obtain ⟨htaken, hlast⟩ := hledger.present hslotted htidy rfl hnone generation hpresent
  refine ⟨hlast, ?_, ?_, hordered.idle, fun hunique i => index_eq hunique hlast⟩
  · have hattempts := Session.attempts_steps htidy inputs
    rw [← hordered.effects, ← hordered.session, List.count_append] at hattempts
    rw [hledger.length_eq, Nat.add_assoc]
    exact hattempts
  · intro hwaiting
    obtain ⟨up, hbefore, hqueue⟩ := hledger.alternating htidy rfl
    obtain rfl := htaken.final_eq hbefore
    exact hqueue.exists_close hwaiting

/-! ## Late events -/

theorem generation_runScript (script : List Rehearsal.Step) (r : Rehearsal) :
    (Rehearsal.runScript script r).2.generation = r.generation := by
  fun_induction Rehearsal.runScript script r with
  | case1 | case2 | case4 => rfl
  | case3 value rest r ih => exact ih
  | case5 payload rest r error hpayload ih => exact ih

theorem slotted_rehearsal : Rehearsal.host.Slotted where
  note _ _ := rfl
  resume _ r := generation_runScript r.script r
  leave _ _ := rfl
  close _ := rfl
  refuse r generation hfailed hpresent := by
    by_cases hrefuse : r.refuse
    · simp only [Rehearsal.host, Rehearsal.enter, hrefuse, if_true] at hpresent
      exact hpresent
    · simp [Rehearsal.host, Rehearsal.enter, hrefuse] at hfailed
  other call r hopen hclose := by
    cases call with
    | openTransport | closeTransport => contradiction
    | send text | scheduleReconnect delay | stateChanged status | deliver payload => rfl

def prompt : Rehearsal :=
  { reactions := [{ cue := "open", steps := [.call (.event 1 .opened)] }] }

theorem prompt_event_last :
    ∃ inputs taken calls d now,
      Ledger Rehearsal.host { session := ((Session.new {}).steps []).1, host := prompt } inputs
        taken calls [some 1] d ∧
      Called Rehearsal.host d (.event 1 .opened) now ∧
      Acts Rehearsal.host (.event 1 .opened) { d with host := now } ∧
      0 + [some 1].length + d.queue.count .openTransport = d.session.attempts ∧
      .openTransport ∉ d.queue := by
  have hstart : Ledger Rehearsal.host
      { session := ((Session.new {}).steps []).1, host := prompt } [] [] [] [] _ := .start
  have hcalled := hstart.call rfl (.submit .start)
  have hwaiting := (hcalled.step rfl).step rfl
  have hopening := hwaiting.step rfl
  refine ⟨_, _, _, _, _, hopening, .inside _ _ _ _ rfl rfl, ?_, ?_, ?_⟩
  · left
    decide +kernel
  · obtain ⟨-, hattempts, -⟩ := acting_event_last Rehearsal.host slotted_rehearsal {} [] prompt rfl
      hopening (.inside _ _ _ _ rfl rfl) (.inl (by decide +kernel))
    exact hattempts
  · decide +kernel

/-- A host that has the session lose its connection as soon as it is there, and connect again, and
whose old connection still has something to say. -/
def hasty : Rehearsal :=
  { reactions :=
      [{ cue := "Connected",
         steps := [.call (.event 1 (.lost .errored)), .call (.submit .connect),
          .call (.event 1 .opened)] }] }

/-- The session has given up its first connection, and it waits for a second one, which the host has
not been asked for yet.  An event of the first connection makes it believe that the second one is
open. -/
theorem late_event_connects :
    ∃ inputs taken calls d now,
      Ledger Rehearsal.host { session := .new {}, host := hasty } inputs taken calls [some 1] d ∧
      Called Rehearsal.host d (.event 1 .opened) now ∧
      d.session.attempts = 2 ∧ d.session.status = .awaitingConnect ∧
      let next := { d with host := now }.accept Rehearsal.host (.event 1 .opened)
      next.session.status = .connected ∧
      next.queue = d.queue ++ [.send .createSession, .stateChanged .connected] := by
  have hstart : Ledger Rehearsal.host { session := .new {}, host := hasty } [] [] [] [] _ := .start
  have hcalled := hstart.call rfl (.submit .start)
  have hwaiting := (hcalled.step rfl).step rfl
  have hopening := (hwaiting.step rfl).step rfl
  have hidle := hopening.step rfl
  have hopened := hidle.call rfl (.event 1 .opened)
  have hintroduced := (hopened.step rfl).step rfl
  have hconnected := hintroduced.step rfl
  have hlost := hconnected.step rfl
  have hagain := hlost.step rfl
  refine ⟨_, _, _, _, _, hagain, .inside _ _ _ _ rfl rfl, ?_, ?_, ?_, ?_⟩
  · rfl
  · rfl
  · rfl
  · rfl

end Dispatch

end ResumableSession
