import ResumableSession.Proofs.Client.Fixtures

/-!
The life of a client.

What the application or the page does with a client first changes something about its shell, and
then it calls the dispatcher, if at all.  The dispatcher goes on until it is at rest.  A `Life` has
all moments of this, also those in the middle of a call, up to the moment at which the client is
given up, and it keeps the history of the sockets.

For the dispatcher, the life of a client is a record without events from inside.
-/

namespace ResumableSession

/-! ## Actions -/

def Shell.prepare (action : Client.Step) (s : Shell) : Shell :=
  match action with
  | .start => s.register
  | .event socket event =>
      match s.page.listener? socket, event.transportEvent? with
      | some _, none =>
          s.write { level := .warn, message := "Ignoring WebSocket message of unsupported type" }
      | some _, some _ | none, _ => s
  | .timer timer => { s with page := s.page.removeTimer timer }
  | .conditions conditions => { s with page := conditions.apply s.page }
  | .initLogging => { s with page := s.page.installLogging }
  | .send _ | .look | .wait | .free => s

/-- How an action calls the dispatcher. -/
def Page.call? (action : Client.Step) (p : Page) : Option Call :=
  match action with
  | .start => some (.submit .start)
  | .send value => value.input.toOption.map .submit
  | .event socket event => do
      let generation ← p.listener? socket
      let event ← event.transportEvent?
      some (.event generation event)
  | .timer timer => if timer ∈ p.timers then some (.submit .connect) else none
  | .look | .conditions _ | .initLogging | .wait | .free => none

namespace Client

def prepare (action : Step) (c : Client) : Client :=
  c.modifyShell (Shell.prepare action)

def begin (action : Step) (c : Client) : Client :=
  let prepared := c.prepare action
  match c.page.call? action with
  | none => prepared
  | some call => { prepared with dispatch := prepared.dispatch.accept Shell.host call }

def settle (c : Client) : Client :=
  { c with dispatch := c.dispatch.settle Shell.host }

/-! ### Any action -/

/-- What an action does to a client before the dispatcher is called. -/
def preface (action : Step) (c : Client) : Client :=
  match action with
  | .free => c.free
  | .start | .send _ | .look | .event _ _ | .timer _ | .conditions _ | .initLogging | .wait =>
      c.prepare action

/-- How an action calls the dispatcher.  The timers of a client that was given up do not. -/
def call? (action : Step) (c : Client) : Option Call :=
  match action with
  | .timer timer => if c.freed then none else c.page.call? (.timer timer)
  | .start | .send _ | .look | .event _ _ | .conditions _ | .initLogging | .wait | .free =>
      c.page.call? action

def act (action : Step) (c : Client) : Client :=
  match c.call? action with
  | none => c.preface action
  | some call =>
      { c.preface action with
        dispatch := (c.preface action).dispatch.accept Shell.host call }

theorem act_eq_begin {action : Step} {c : Client} (hfreed : c.freed = false)
    (hkept : action ≠ .free) : c.act action = c.begin action := by
  have hpreface : c.preface action = c.prepare action := by
    cases action <;> first | rfl | contradiction
  have hcall : c.call? action = c.page.call? action := by
    cases action with
    | timer timer => exact if_neg (by simp [hfreed])
    | start | send value | look | event socket event | conditions conditions | initLogging | wait
    | free => rfl
  rw [act, hpreface, hcall, begin]

theorem settle_of_idle {c : Client} (hidle : c.dispatch.stage = .idle) : c.settle = c := by
  rw [settle, Dispatch.settle_of_idle hidle]

theorem act_of_call {action : Step} {c : Client} {call : Call}
    (hcall : c.call? action = some call) :
    (c.act action).settle = (c.preface action).perform call := by
  simp only [act, hcall]
  rfl

theorem act_of_no_call {action : Step} {c : Client} (hidle : c.dispatch.stage = .idle)
    (hcall : c.call? action = none) : (c.act action).settle = c.preface action := by
  have hrest : (c.preface action).dispatch.stage = .idle := by
    cases action with
    | free =>
        simp only [preface, free]
        split <;> exact hidle
    | start | send value | look | event socket event | timer timer | conditions conditions
    | initLogging | wait => exact hidle
  simp only [act, hcall]
  exact settle_of_idle hrest

theorem prepare_of_same {action : Step} {c : Client}
    (h : c.dispatch.host.prepare action = c.dispatch.host) : c.prepare action = c := by
  rw [prepare, modifyShell, h]

theorem send_eq (value : OfferedValue) {c : Client} (hidle : c.dispatch.stage = .idle) :
    (c.step (.send value)).2 = (c.act (.send value)).settle := by
  cases hinput : value.input with
  | error error =>
      have hcall : c.call? (.send value) = none := by
        simp [call?, Page.call?, hinput, Except.toOption]
      rw [act_of_no_call hidle hcall]
      simp only [step, sendRequest, hinput]
      rfl
  | ok input =>
      have hcall : c.call? (.send value) = some (.submit input) := by
        simp [call?, Page.call?, hinput, Except.toOption]
      rw [act_of_call hcall]
      simp only [step, sendRequest, hinput]
      rfl

theorem event_eq (socket : Nat) (event : SocketEvent) {c : Client}
    (hidle : c.dispatch.stage = .idle) :
    (c.step (.event socket event)).2 = (c.act (.event socket event)).settle := by
  cases hlistener : c.page.listener? socket with
  | none =>
      have hcall : c.call? (.event socket event) = none := by
        simp [call?, Page.call?, hlistener]
      have hhost : c.dispatch.host.page.listener? socket = none := hlistener
      rw [act_of_no_call hidle hcall, preface, prepare_of_same (by simp [Shell.prepare, hhost])]
      simp only [step, socketEvent, hlistener]
  | some generation =>
      have hhost : c.dispatch.host.page.listener? socket = some generation := hlistener
      cases hevent : event.transportEvent? with
      | none =>
          have hcall : c.call? (.event socket event) = none := by
            simp [call?, Page.call?, hlistener, hevent]
          rw [act_of_no_call hidle hcall]
          simp only [step, socketEvent, hlistener, hevent, preface, prepare, modifyShell,
            Shell.prepare, hhost]
          rfl
      | some happened =>
          have hcall : c.call? (.event socket event) = some (.event generation happened) := by
            simp [call?, Page.call?, hlistener, hevent]
          rw [act_of_call hcall, preface,
            prepare_of_same (by simp [Shell.prepare, hhost, hevent])]
          simp only [step, socketEvent, hlistener, hevent]

theorem timer_eq (timer : Nat) {c : Client} (hidle : c.dispatch.stage = .idle) :
    (c.step (.timer timer)).2 = (c.act (.timer timer)).settle := by
  by_cases hpending : timer ∈ c.page.timers
  · have hfire : (c.step (.timer timer)).2 =
        if c.freed then c.prepare (.timer timer)
        else (c.prepare (.timer timer)).perform (.submit .connect) := by
      simp only [step, fireTimer, if_pos hpending]
      rfl
    rw [hfire]
    by_cases hfreed : c.freed
    · have hcall : c.call? (.timer timer) = none := if_pos hfreed
      rw [if_pos hfreed, act_of_no_call hidle hcall]
      rfl
    · have hcall : c.call? (.timer timer) = some (.submit .connect) :=
        (if_neg hfreed).trans (if_pos hpending)
      rw [if_neg hfreed, act_of_call hcall]
      rfl
  · have hcall : c.call? (.timer timer) = none := by
      simp [call?, Page.call?, hpending]
    have hsame : c.dispatch.host.page.removeTimer timer = c.dispatch.host.page := by
      have hothers : c.dispatch.host.page.timers.filter (· ≠ timer) =
          c.dispatch.host.page.timers := by
        refine List.filter_eq_self.mpr fun other hother => decide_eq_true ?_
        rintro rfl
        exact hpending hother
      rw [Page.removeTimer, hothers]
    rw [act_of_no_call hidle hcall, preface, prepare_of_same (by simp [Shell.prepare, hsame])]
    simp only [step, fireTimer, if_neg hpending]

theorem step_eq_act (action : Step) {c : Client} (hidle : c.dispatch.stage = .idle) :
    (c.step action).2 = (c.act action).settle := by
  cases action with
  | start =>
      have hcall : c.call? .start = some (.submit .start) := rfl
      rw [act_of_call hcall]
      rfl
  | look | conditions conditions | initLogging | wait | free =>
      rw [act_of_no_call hidle (by rfl)]
      rfl
  | send value => exact send_eq value hidle
  | event socket event => exact event_eq socket event hidle
  | timer timer => exact timer_eq timer hidle

theorem idle_step (action : Step) {c : Client} (hidle : c.dispatch.stage = .idle) :
    (c.step action).2.dispatch.stage = .idle := by
  rw [step_eq_act action hidle]
  exact (Dispatch.settle_keeps (fun _ => True) (fun _ _ _ _ => trivial) trivial).2

theorem step_eq (action : Step) {c : Client} (hfreed : c.freed = false)
    (hidle : c.dispatch.stage = .idle) (hkept : action ≠ .free) :
    (c.step action).2 = (c.begin action).settle := by
  rw [step_eq_act action hidle, act_eq_begin hfreed hkept]

theorem step_eq_advance (action : Step) (count : Nat) {c : Client} (hfreed : c.freed = false)
    (hidle : c.dispatch.stage = .idle) (hkept : action ≠ .free)
    (hrest : ((c.begin action).dispatch.advance Shell.host count).stage = .idle) :
    (c.step action).2 = { c.begin action with
      dispatch := (c.begin action).dispatch.advance Shell.host count } := by
  rw [step_eq action hfreed hidle hkept, settle, Dispatch.settle_eq_advance hrest]

/-! ## Lives -/

def fixtures (c : Client) : Fixtures :=
  c.dispatch.host.fixtures

def hostCall? (c : Client) : Option HostCall :=
  c.dispatch.due?.bind Effect.call?

def operations (c : Client) : List SocketOperation :=
  c.hostCall?.elim [] fun call => c.fixtures.operations call

/-- What can become of a client that is not given up, with the history of its sockets. -/
inductive Life (start : Client) : List SocketOperation → Client → Prop where
  | start : Life start [] start
  | begins {operations : List SocketOperation} {c : Client} (life : Life start operations c)
      (idle : c.dispatch.stage = .idle) (action : Step) (kept : action ≠ .free) :
      Life start operations (c.begin action)
  | goesOn {operations : List SocketOperation} {c : Client} {next : Dispatch Shell}
      (life : Life start operations c) (hstep : c.dispatch.step? Shell.host = some next) :
      Life start (operations ++ c.operations) { c with dispatch := next }

variable {start c : Client} {operations : List SocketOperation}

def run (actions : List Step) (c : Client) : Client :=
  actions.foldl (fun c action => (c.step action).2) c

theorem Life.settle (life : Life start operations c) :
    (∃ more, Life start (operations ++ more) c.settle) ∧ c.settle.dispatch.stage = .idle := by
  refine Dispatch.settle_keeps
    (fun d => ∃ more, Life start (operations ++ more) { c with dispatch := d }) ?_ ?_
  · rintro d next hstep ⟨more, hlife⟩
    have hnext := hlife.goesOn hstep
    rw [List.append_assoc] at hnext
    exact ⟨_, hnext⟩
  · exact ⟨[], by rwa [List.append_nil]⟩

theorem freed_begin (action : Step) (c : Client) : (c.begin action).freed = c.freed := by
  unfold begin
  dsimp only
  split <;> rfl

theorem Life.step (life : Life start operations c) (action : Step) (hfreed : c.freed = false)
    (hidle : c.dispatch.stage = .idle) (hkept : action ≠ .free) :
    (∃ more, Life start (operations ++ more) (c.step action).2) ∧
      (c.step action).2.dispatch.stage = .idle ∧ (c.step action).2.freed = false := by
  obtain ⟨hlife, hrest⟩ := (life.begins hidle action hkept).settle
  rw [step_eq action hfreed hidle hkept]
  exact ⟨hlife, hrest, (freed_begin action c).trans hfreed⟩

theorem Life.run (life : Life start operations c) (hfreed : c.freed = false)
    (hidle : c.dispatch.stage = .idle) {actions : List Step} (hkept : .free ∉ actions) :
    (∃ more, Life start (operations ++ more) (c.run actions)) ∧
      (c.run actions).dispatch.stage = .idle ∧ (c.run actions).freed = false := by
  induction actions generalizing c operations with
  | nil => exact ⟨⟨[], by rwa [List.append_nil]⟩, hidle, hfreed⟩
  | cons action rest ih =>
      rw [List.mem_cons, not_or] at hkept
      obtain ⟨⟨more, hlife⟩, hrest, hstill⟩ := life.step action hfreed hidle (Ne.symm hkept.1)
      obtain ⟨⟨further, hrun⟩, hend⟩ := ih hlife hstill hrest hkept.2
      rw [List.append_assoc] at hrun
      exact ⟨⟨_, hrun⟩, hend⟩

end Client

/-! ## What becomes of the fixtures -/

def Fixtures.prepare (action : Client.Step) (f : Fixtures) : Fixtures :=
  match action with
  | .timer timer => { f with timers := f.timers.filter (· ≠ timer) }
  | .conditions conditions => { f with conditions }
  | .start | .send _ | .look | .event _ _ | .initLogging | .wait | .free => f

theorem Shell.fixtures_prepare (action : Client.Step) (s : Shell) :
    (s.prepare action).fixtures = s.fixtures.prepare action := by
  cases action with
  | start | send value | look | timer timer | conditions conditions | wait | free => rfl
  | event socket event =>
      simp only [prepare]
      split
      · exact fixtures_write _ s
      all_goals rfl
  | initLogging =>
      by_cases hlogging : s.page.logging
      · simp only [prepare, Page.installLogging, if_pos hlogging]
        exact fixtures_write _ s
      · simp only [prepare, Page.installLogging, if_neg hlogging]
        rfl

theorem Shell.fixtures_view : host.View fixtures Fixtures.enter where
  note notice s := fixtures_write notice.record s
  enter := fixtures_enter
  leave := fixtures_leave

namespace Client

variable {start c : Client} {next : Dispatch Shell} {operations : List SocketOperation}

theorem fixtures_begin (action : Step) (c : Client) :
    (c.begin action).fixtures = c.fixtures.prepare action := by
  have hprepare : (c.prepare action).fixtures = c.fixtures.prepare action :=
    Shell.fixtures_prepare action c.dispatch.host
  unfold begin
  dsimp only
  split
  · exact hprepare
  · exact (Shell.fixtures_view.accept _ _).trans hprepare

theorem hostCall?_of_calling {call : HostCall} {failure : Option String}
    (hstage : c.dispatch.stage = .calling call failure) : c.hostCall? = none := by
  simp only [hostCall?, Dispatch.due?, hstage]
  rfl

theorem hostCall?_of_draining {effect : Effect} {rest : List Effect}
    (hstage : c.dispatch.stage = .draining) (hqueue : c.dispatch.queue = effect :: rest) :
    c.hostCall? = effect.call? := by
  simp [hostCall?, Dispatch.due?, hstage, hqueue]

theorem fixtures_step (hstep : c.dispatch.step? Shell.host = some next) :
    next.host.fixtures = c.hostCall?.elim c.fixtures fun call => c.fixtures.enter call := by
  rcases Shell.fixtures_view.step hstep with ⟨hdue, hresume⟩ | hcall
  · have hnone : c.hostCall? = none := by
      rw [hostCall?, hdue]
      rfl
    rw [hnone]
    exact hresume.trans (Shell.fixtures_runScript _ _ _)
  · exact hcall

theorem Life.freed (life : Life start operations c) : c.freed = start.freed := by
  induction life with
  | start => rfl
  | begins life idle action kept ih => exact (freed_begin action _).trans ih
  | goesOn life hstep ih => exact ih

theorem Life.fixtures_keep (kept : List SocketOperation → Fixtures → Prop)
    (hstart : kept [] start.fixtures)
    (hprepare : ∀ operations f action, kept operations f → kept operations (f.prepare action))
    (henter : ∀ operations f call, kept operations f →
      kept (operations ++ f.operations call) (f.enter call))
    (life : Life start operations c) : kept operations c.fixtures := by
  induction life with
  | start => exact hstart
  | begins life idle action free ih =>
      rw [fixtures_begin]
      exact hprepare _ _ action ih
  | @goesOn operations c next life hstep ih =>
      have hnext : Client.fixtures { c with dispatch := next } = _ := fixtures_step hstep
      rw [hnext, Client.operations]
      cases c.hostCall? with
      | none => simpa using ih
      | some call => exact henter _ _ call ih

theorem Life.serial (life : Life start operations c) :
    ∃ inputs taken generations,
      Dispatch.Serial Shell.host start.dispatch inputs taken generations c.dispatch := by
  induction life with
  | start => exact ⟨_, _, _, .start⟩
  | @begins operations c life idle action kept ih =>
      obtain ⟨inputs, taken, generations, hserial⟩ := ih
      -- What happens on the page before the call does not touch the connection.
      have hslot : (c.dispatch.host.prepare action).slot = c.dispatch.host.slot := by
        have hfixtures := congrArg Fixtures.slot (Shell.fixtures_prepare action c.dispatch.host)
        refine hfixtures.trans ?_
        cases action <;> rfl
      have hprepared := hserial.elsewhere idle _ (Shell.generation_of_slot hslot)
      unfold begin
      dsimp only
      split
      · exact ⟨_, _, _, hprepared⟩
      · next call hcall => exact ⟨_, _, _, hprepared.call idle call⟩
  | goesOn life hstep ih =>
      obtain ⟨inputs, taken, generations, hserial⟩ := ih
      exact ⟨_, _, _, hserial.step hstep fun _ _ _ _ hcall => Shell.wanted_of_resume hcall⟩

/-! ## New clients -/

theorem new_dispatch {options : Options} {reactions : List (Reaction CallbackStep)} {page : Page}
    (h : new options reactions page = .ok start) :
    ∃ url, start = { dispatch :=
      { session := .new options.config, host := { page, url, reactions } } } := by
  unfold new at h
  cases hurl : options.url with
  | some url =>
      rw [hurl] at h
      exact ⟨url, (Except.ok.inj h).symm⟩
  | none =>
      cases hdefault : page.defaultUrl with
      | error error =>
          rw [hurl, hdefault] at h
          contradiction
      | ok url =>
          rw [hurl, hdefault] at h
          exact ⟨url, (Except.ok.inj h).symm⟩

theorem new_run {options : Options} {reactions : List (Reaction CallbackStep)} {page : Page}
    (h : new options reactions page = .ok start) {actions : List Step} (hkept : .free ∉ actions) :
    ∃ operations, Life start operations (start.run actions) ∧
      (start.run actions).dispatch.stage = .idle := by
  obtain ⟨url, rfl⟩ := new_dispatch h
  have hstart : Life { dispatch :=
      { session := .new options.config, host := { page, url, reactions } } } [] _ := .start
  obtain ⟨⟨operations, hlife⟩, hrest, -⟩ := hstart.run rfl rfl hkept
  exact ⟨_, hlife, hrest⟩

section

variable {options : Options} {reactions : List (Reaction CallbackStep)} {page : Page}
  (hnew : Client.new options reactions page = .ok start) (life : Life start operations c)
  (hidle : c.dispatch.stage = .idle)

include hnew life hidle

theorem Life.queue_of_idle : c.dispatch.queue = [] := by
  obtain ⟨url, rfl⟩ := new_dispatch hnew
  obtain ⟨inputs, taken, generations, hserial⟩ := life.serial
  obtain ⟨calls, hledger⟩ := hserial.ledger
  exact (hledger.trace.ordered rfl).idle hidle

theorem Life.current_iff_live :
    (∃ transport, c.dispatch.host.slot = .current transport) ↔ c.session.status.live := by
  obtain ⟨url, rfl⟩ := new_dispatch hnew
  obtain ⟨inputs, taken, generations, hserial⟩ := life.serial
  obtain ⟨calls, hledger⟩ := hserial.ledger
  have hpresent := hledger.present_iff_live Shell.slotted Shell.occupying (.new _) rfl rfl rfl hidle
  refine Iff.trans ?_ hpresent
  rw [Option.isSome_iff_exists]
  constructor
  · rintro ⟨transport, hslot⟩
    exact ⟨_, Shell.generation_eq_some.mpr ⟨transport, hslot, rfl⟩⟩
  · rintro ⟨generation, hgeneration⟩
    obtain ⟨transport, hslot, -⟩ := Shell.generation_eq_some.mp hgeneration
    exact ⟨transport, hslot⟩

end

end Client

end ResumableSession
