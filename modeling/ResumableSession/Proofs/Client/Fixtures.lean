import ResumableSession.Client.Step
import ResumableSession.Proofs.Client.Sockets
import ResumableSession.Proofs.Dispatch.Sends
import ResumableSession.Proofs.Dispatch.Views

/-!
What a client has of its page.

The `Fixtures` of a shell are its connection, the sockets of its page with the log of what was done
to them, the timers, and what can go wrong on the page.  All else that a shell does is said to the
application or to the console.  For each thing that a shell does there is one equation that tells
what becomes of the fixtures, and with sockets it tells each single operation.  The properties of
the shell as a host follow from these.
-/

namespace ResumableSession

def Transport.opening (transport : Transport) : List SocketOperation :=
  [.made transport.socket transport.generation, .handled transport.socket true]

def Transport.shutdown (transport : Transport) : List SocketOperation :=
  [.handled transport.socket false, .closed transport.socket]

def Slot.release : Slot → List SocketOperation
  | .vacant => []
  | .current transport | .retired transport => transport.shutdown

def Slot.retire : Slot → Slot
  | .current transport => .retired transport
  | .vacant => .vacant
  | .retired transport => .retired transport

theorem SocketOperation.length_release (slot : Slot) (sockets : Table Nat Socket) :
    (perform slot.release sockets).length = sockets.length := by
  cases slot <;> simp [Slot.release, Transport.shutdown, apply, Table.length_modify]

def Page.Entry.ofSocket : Page.Entry → Bool
  | .socket _ _ | .closed _ => true
  | .refused _ | .binaryType _ | .sent _ _ | .timer _ _ | .state _ _ | .delivered _ _ | .looked _
  | .failed _ | .console _ => false

def Page.conditions (p : Page) : Client.Conditions where
  hasWindow := p.hasWindow
  socketThrows := p.socketThrows
  sendThrows := p.sendThrows
  closeThrows := p.closeThrows
  timerThrows := p.timerThrows

/-! ## Fixtures -/

@[ext]
structure Fixtures where
  url : String
  slot : Slot
  generation : Nat
  sockets : Table Nat Socket
  /-- The entries of the log that tell of sockets. -/
  log : List Page.Entry
  timerCount : Nat
  timers : List Nat
  conditions : Client.Conditions

namespace Fixtures

variable {f : Fixtures}

def operate (operations : List SocketOperation) (f : Fixtures) : Fixtures :=
  { f with
    sockets := SocketOperation.perform operations f.sockets
    log := f.log ++ operations.filterMap (SocketOperation.logged? f.url) }

@[simp] theorem operate_nil (f : Fixtures) : f.operate [] = f := by
  simp [operate]

theorem operate_append (first second : List SocketOperation) (f : Fixtures) :
    f.operate (first ++ second) = (f.operate first).operate second := by
  simp [operate, SocketOperation.perform_append]

def next (f : Fixtures) : Transport :=
  ⟨f.sockets.length + 1, f.generation + 1⟩

/-- What a call does to the sockets, one thing after the other. -/
def operations (call : HostCall) (f : Fixtures) : List SocketOperation :=
  match call with
  | .openTransport =>
      match f.conditions.socketThrows with
      | some _ => f.slot.release
      | none => f.slot.release ++ f.next.opening
  | .closeTransport =>
      match f.slot with
      | .current transport => transport.shutdown
      | .vacant | .retired _ => []
  | .send _ | .scheduleReconnect _ | .stateChanged _ | .deliver _ => []

def enter (call : HostCall) (f : Fixtures) : Fixtures :=
  match call with
  | .openTransport =>
      { f.operate (f.operations .openTransport) with
        slot := match f.conditions.socketThrows with
          | some _ => .vacant
          | none => .current f.next
        generation := f.generation + 1 }
  | .closeTransport =>
      { f.operate (f.operations .closeTransport) with slot := f.slot.retire }
  | .scheduleReconnect _ =>
      if f.conditions.hasWindow ∧ f.conditions.timerThrows = none then
        { f with timerCount := f.timerCount + 1, timers := f.timers ++ [f.timerCount + 1] }
      else f
  | .send _ | .stateChanged _ | .deliver _ => f

end Fixtures

namespace Shell

def fixtures (s : Shell) : Fixtures where
  url := s.url
  slot := s.slot
  generation := s.generation
  sockets := s.page.sockets
  log := s.page.log.filter Page.Entry.ofSocket
  timerCount := s.page.timerCount
  timers := s.page.timers
  conditions := s.page.conditions

variable {s : Shell}

theorem fixtures_record (entry : Page.Entry) (s : Shell) (h : entry.ofSocket = false) :
    (s.record entry).fixtures = s.fixtures := by
  simp [fixtures, record, Page.record, Page.conditions, h]

@[simp] theorem fixtures_write (record : LogRecord) (s : Shell) :
    (s.write record).fixtures = s.fixtures := by
  by_cases hlogging : s.page.logging
  · have hwrite : s.write record = s.record (.console record) := by
      simp only [write, Page.write, if_pos hlogging]
      rfl
    rw [hwrite, fixtures_record _ s rfl]
  · simp only [write, Page.write, if_neg hlogging]

@[simp] theorem fixtures_complain (level : LogLevel) (what : String) (thrown : Option String)
    (s : Shell) : (s.complain level what thrown).fixtures = s.fixtures := by
  unfold complain
  split <;> simp

/-! ## Connections -/

theorem fixtures_shutdown (transport : Transport) (s : Shell) :
    (s.shutdown transport).fixtures = s.fixtures.operate transport.shutdown := by
  simp only [shutdown, fixtures_complain]
  refine Fixtures.ext rfl rfl rfl rfl ?_ rfl rfl rfl
  exact List.filter_append ..

theorem fixtures_release (s : Shell) :
    s.release.fixtures = { s.fixtures.operate s.slot.release with slot := .vacant } := by
  unfold release
  split
  · next hslot => simp [fixtures, hslot, Slot.release, Fixtures.operate]
  all_goals
    next transport hslot =>
      rw [hslot, Slot.release, ← fixtures_shutdown]
      rfl

theorem socketThrows_release (s : Shell) : s.release.page.socketThrows = s.page.socketThrows :=
  congrArg (fun f => f.conditions.socketThrows) s.fixtures_release

theorem openTransport_of_throws {thrown : String} (h : s.page.socketThrows = some thrown) :
    s.openTransport =
      (some (describeThrown thrown),
        { s.release with
          generation := s.generation + 1
          page := s.release.page.record (.refused s.release.url) }) := by
  simp [openTransport, Page.openSocket, socketThrows_release, h]

def occupy (transport : Transport) (s : Shell) : Shell :=
  let sockets :=
    Table.insert transport.socket { generation := transport.generation } s.page.sockets
  let made := { s.page with sockets }.record (.socket transport.socket s.url)
  { s with
    generation := transport.generation
    page := (made.setBinaryType transport.socket).setHandlers transport.socket true
    slot := .current transport }

theorem openTransport_of_opens (h : s.page.socketThrows = none) :
    let transport : Transport := ⟨s.release.page.sockets.length + 1, s.generation + 1⟩
    s.openTransport =
      (none,
        (s.release.occupy transport).write
          ⟨.debug, "WebSocket opening",
            [s!"generation={transport.generation}", s!"url={s.release.url}"]⟩) := by
  simp [openTransport, Page.openSocket, occupy, socketThrows_release, h]

theorem fixtures_occupy (transport : Transport) (s : Shell) :
    (s.occupy transport).fixtures =
      { s.fixtures.operate transport.opening with
        slot := .current transport, generation := transport.generation } := by
  refine Fixtures.ext rfl rfl rfl rfl ?_ rfl rfl rfl
  simp only [fixtures, occupy, Fixtures.operate, Page.setHandlers, Page.setBinaryType, Page.record,
    List.filter_append, List.append_assoc]
  rfl

theorem fixtures_openTransport (s : Shell) :
    s.openTransport.2.fixtures = s.fixtures.enter .openTransport := by
  have hreleased := s.fixtures_release
  cases hthrows : s.page.socketThrows with
  | some thrown =>
      have hconditions : s.fixtures.conditions.socketThrows = some thrown := hthrows
      have hgeneration : { s.release with generation := s.generation + 1 }.fixtures =
          { s.release.fixtures with generation := s.generation + 1 } := rfl
      rw [openTransport_of_throws hthrows]
      refine (fixtures_record (.refused s.release.url)
        { s.release with generation := s.generation + 1 } rfl).trans ?_
      rw [hgeneration, hreleased, Fixtures.enter, Fixtures.operations, hconditions]
      rfl
  | none =>
      have hconditions : s.fixtures.conditions.socketThrows = none := hthrows
      have hsockets : s.release.page.sockets = _ := congrArg Fixtures.sockets hreleased
      have hlength : s.release.page.sockets.length = s.page.sockets.length := by
        rw [hsockets]
        exact SocketOperation.length_release ..
      rw [openTransport_of_opens hthrows, fixtures_write, fixtures_occupy, hreleased, hlength,
        Fixtures.enter, Fixtures.operations, hconditions, Fixtures.operate_append]
      rfl

theorem fixtures_closeTransport (s : Shell) :
    s.closeTransport.fixtures = s.fixtures.enter .closeTransport := by
  unfold closeTransport
  split
  · next transport hslot =>
      have hfixtures : s.fixtures.slot = .current transport := hslot
      simp only [Fixtures.enter, Fixtures.operations, hfixtures, Slot.retire, ← fixtures_shutdown]
      rfl
  · next hslot =>
      have hfixtures : s.fixtures.slot = .vacant := hslot
      simp only [Fixtures.enter, Fixtures.operations, hfixtures, Slot.retire, Fixtures.operate_nil]
      rw [← hfixtures]
  · next transport hslot =>
      have hfixtures : s.fixtures.slot = .retired transport := hslot
      simp only [Fixtures.enter, Fixtures.operations, hfixtures, Slot.retire, Fixtures.operate_nil]
      rw [← hfixtures]

/-! ## Calls -/

theorem fixtures_send (text : String) (s : Shell) : (s.send text).fixtures = s.fixtures := by
  unfold send
  split
  · rw [fixtures_complain]
    exact fixtures_record _ s rfl
  all_goals exact fixtures_write _ s

theorem fixtures_scheduleReconnect (delay : Nat) (s : Shell) :
    (s.scheduleReconnect delay).fixtures = s.fixtures.enter (.scheduleReconnect delay) := by
  by_cases hwindow : s.page.hasWindow
  · simp only [scheduleReconnect, if_pos hwindow, fixtures_complain, Page.setTimer]
    cases hthrows : s.page.timerThrows with
    | some thrown =>
        have hfails :
            ¬ (s.fixtures.conditions.hasWindow ∧ s.fixtures.conditions.timerThrows = none) := by
          simp [fixtures, Page.conditions, hthrows]
        exact (if_neg hfails).symm
    | none =>
        have hworks : s.fixtures.conditions.hasWindow ∧ s.fixtures.conditions.timerThrows = none :=
          ⟨hwindow, hthrows⟩
        rw [Fixtures.enter, if_pos hworks]
        refine Fixtures.ext rfl rfl rfl rfl ?_ rfl rfl ?_
        · simp [fixtures, Page.record, Page.Entry.ofSocket]
        · simp [fixtures, Page.record, Page.conditions, hthrows]
  · have hfails : ¬ (s.fixtures.conditions.hasWindow ∧ s.fixtures.conditions.timerThrows = none) :=
      fun hworks => hwindow hworks.1
    rw [scheduleReconnect, if_neg hwindow, fixtures_write, Fixtures.enter, if_neg hfails]

theorem fixtures_enter (call : HostCall) (s : Shell) :
    (s.enter call).2.fixtures = s.fixtures.enter call := by
  cases call with
  | openTransport => exact fixtures_openTransport s
  | closeTransport => exact fixtures_closeTransport s
  | send text => exact fixtures_send text s
  | scheduleReconnect delay => exact fixtures_scheduleReconnect delay s
  | stateChanged status =>
      simp only [enter, stateChanged]
      split
      · rfl
      · exact fixtures_record _ s rfl
  | deliver payload =>
      simp only [enter, deliver]
      split
      · rfl
      · exact fixtures_record _ s rfl

theorem fixtures_runScript (session : Session) (script : List CallbackStep) (s : Shell) :
    (runScript session script s).2.fixtures = s.fixtures := by
  fun_induction runScript session script s with
  | case1 | case2 | case3 => rfl
  | case4 s value rest error hinput ih => exact ih.trans (fixtures_record _ s rfl)
  | case5 s rest ih => exact ih.trans (fixtures_record _ s rfl)

theorem fixtures_leave (call : HostCall) (s : Shell) : (leave call s).fixtures = s.fixtures := by
  simp only [leave, fixtures_complain]
  rfl

/-! ## The shell as a host -/

theorem generation_eq_some {generation : Nat} :
    host.generation s = some generation ↔
      ∃ transport, s.slot = .current transport ∧ transport.generation = generation := by
  simp only [host, current?]
  split <;> simp_all

theorem generation_of_slot {t : Shell} (h : s.slot = t.slot) :
    host.generation s = host.generation t := by
  simp only [host, current?, h]

theorem generation_of_fixtures {t : Shell} (h : s.fixtures = t.fixtures) :
    host.generation s = host.generation t :=
  generation_of_slot (congrArg Fixtures.slot h)

theorem slot_enter (call : HostCall) (s : Shell) :
    (host.enter call s).2.slot = (s.fixtures.enter call).slot :=
  congrArg Fixtures.slot (fixtures_enter call s)

theorem failure_openTransport (s : Shell) :
    s.openTransport.1 = s.page.socketThrows.map describeThrown := by
  cases hthrows : s.page.socketThrows with
  | some thrown => rw [openTransport_of_throws hthrows]; rfl
  | none => rw [openTransport_of_opens hthrows]; rfl

theorem slotted : host.Slotted where
  note notice s := rfl
  resume session s := generation_of_fixtures (fixtures_runScript session s.script s)
  leave call s := generation_of_fixtures (fixtures_leave call s)
  close s := by
    by_contra hpresent
    obtain ⟨generation, hgeneration⟩ := Option.ne_none_iff_exists'.mp hpresent
    obtain ⟨transport, hslot, -⟩ := generation_eq_some.mp hgeneration
    rw [slot_enter, Fixtures.enter] at hslot
    have hretired : s.slot.retire = .current transport := hslot
    cases hbefore : s.slot <;> simp [hbefore, Slot.retire] at hretired
  refuse s generation hfailed hpresent := by
    obtain ⟨thrown, hthrows⟩ : ∃ thrown, s.fixtures.conditions.socketThrows = some thrown := by
      have hfailure : s.openTransport.1.isSome := hfailed
      rw [failure_openTransport, Option.isSome_map] at hfailure
      exact Option.isSome_iff_exists.mp hfailure
    obtain ⟨transport, hslot, -⟩ := generation_eq_some.mp hpresent
    simp [slot_enter, Fixtures.enter, hthrows] at hslot
  other call s hopen hclose := by
    refine generation_of_slot ((slot_enter call s).trans ?_)
    cases call with
    | openTransport | closeTransport => contradiction
    | send text | stateChanged status | deliver payload => rfl
    | scheduleReconnect delay =>
        rw [Fixtures.enter]
        split <;> rfl

theorem occupying : host.Occupying := by
  intro s hopened
  have hthrows : s.fixtures.conditions.socketThrows = none := by
    have hfailure : s.openTransport.1 = none := hopened
    rw [failure_openTransport] at hfailure
    exact Option.map_eq_none_iff.mp hfailure
  refine Option.isSome_iff_exists.mpr ⟨s.generation + 1, generation_eq_some.mpr
    ⟨s.fixtures.next, ?_, rfl⟩⟩
  simp only [slot_enter, Fixtures.enter, hthrows]

end Shell

/-! ## Callbacks -/

theorem OfferedValue.exists_request {value : OfferedValue} {input : Input}
    (h : value.input = .ok input) : ∃ payload, input = .request payload := by
  cases value with
  | throws thrown | undefined => contradiction
  | text json =>
      simp only [OfferedValue.input, Input.ofPayloadText] at h
      cases hread : Json.ofPayloadText json with
      | error error => simp [hread, Except.map, Except.mapError] at h
      | ok payload =>
          rw [hread] at h
          exact ⟨payload, (Except.ok.inj h).symm⟩

theorem Shell.wanted_of_resume {session : Session} {s : Shell} {call : Call}
    (h : (host.resume session s).1 = some call) : call.wanted := by
  have hscript (script : List CallbackStep) (s : Shell)
      (h : (runScript session script s).1 = some call) : call.wanted := by
    fun_induction runScript session script s with
    | case1 => contradiction
    | case2 s rest =>
        obtain rfl : _ = call := Option.some.inj h
        rfl
    | case3 s value rest input hinput =>
        obtain rfl : _ = call := Option.some.inj h
        obtain ⟨payload, rfl⟩ := OfferedValue.exists_request hinput
        rfl
    | case4 s value rest error hinput ih => exact ih h
    | case5 s rest ih => exact ih h
  exact hscript s.script s h

end ResumableSession
