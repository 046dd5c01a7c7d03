import ResumableSession.Proofs.Client.Life
import ResumableSession.Proofs.Session.Tellings

/-!
What the application hears of a client.

The application has callbacks for responses and for changes of the status.  The `Audience` of a
shell is how often they were registered, and what they have been called with.  Like the fixtures, it
is changed by the calls to the shell only, and by callbacks that register others.
-/

namespace ResumableSession

inductive Invocation where
  | state (status : Status)
  | response (text : String)
  deriving DecidableEq, Repr

def Invocation.status? : Invocation → Option Status
  | .state status => some status
  | .response _ => none

def Invocation.text? : Invocation → Option String
  | .state _ => none
  | .response text => some text

def Page.Entry.invocation? : Page.Entry → Option Invocation
  | .state _ status => some (.state status)
  | .delivered _ text => some (.response text)
  | .socket _ _ | .refused _ | .binaryType _ | .sent _ _ | .closed _ | .timer _ _ | .looked _
  | .failed _ | .console _ => none

namespace Page

def invocations (p : Page) : List Invocation :=
  p.log.filterMap Entry.invocation?

def states (p : Page) : List Status :=
  p.invocations.filterMap Invocation.status?

def responses (p : Page) : List String :=
  p.invocations.filterMap Invocation.text?

end Page

def HostCall.invocation? : HostCall → Option Invocation
  | .stateChanged status => some (.state status)
  | .deliver payload => some (.response payload.render)
  | .openTransport | .closeTransport | .send _ | .scheduleReconnect _ => none

def Effect.invocation? (effect : Effect) : Option Invocation :=
  effect.call?.bind HostCall.invocation?

theorem status?_invocations (effects : List Effect) :
    (effects.filterMap Effect.invocation?).filterMap Invocation.status? = told effects := by
  rw [List.filterMap_filterMap]
  refine congrArg (List.filterMap · effects) (funext fun effect => ?_)
  cases effect <;> rfl

theorem text?_invocations (effects : List Effect) :
    (effects.filterMap Effect.invocation?).filterMap Invocation.text? =
      (deliveries effects).map Json.render := by
  rw [List.filterMap_filterMap, deliveries, List.map_filterMap]
  refine congrArg (List.filterMap · effects) (funext fun effect => ?_)
  cases effect <;> rfl

/-! ## Who listens -/

structure Audience where
  registrations : Nat
  heard : List Invocation

namespace Audience

def enter (call : HostCall) (a : Audience) : Audience :=
  if a.registrations = 0 then a else { a with heard := a.heard ++ call.invocation?.toList }

theorem elim_enter {a : Audience} (h : a.registrations ≠ 0) (due : Option Effect) :
    ((due.bind Effect.call?).elim a fun call => a.enter call) =
      { a with heard := a.heard ++ due.toList.filterMap Effect.invocation? } := by
  cases due with
  | none => simp
  | some effect =>
      have heard : [effect].filterMap Effect.invocation? = effect.invocation?.toList := by
        cases effect <;> rfl
      rw [Option.toList_some, heard, Option.bind_some, Effect.invocation?]
      cases effect.call? with
      | none => simp
      | some call => exact if_neg h

structure Joined (before after : Audience) : Prop where
  registrations : before.registrations ≤ after.registrations
  heard : after.heard = before.heard

theorem Joined.of_eq {before after : Audience} (h : after = before) : Joined before after := by
  subst h
  exact ⟨Nat.le_refl _, rfl⟩

end Audience

namespace Shell

def audience (s : Shell) : Audience :=
  ⟨s.registrations, s.page.invocations⟩

theorem audience_record (entry : Page.Entry) (s : Shell) :
    (s.record entry).audience =
      { s.audience with heard := s.audience.heard ++ entry.invocation?.toList } := by
  cases hentry : entry.invocation? <;>
    simp [audience, record, Page.record, Page.invocations, hentry]

theorem audience_record_silent (entry : Page.Entry) (s : Shell) (h : entry.invocation? = none) :
    (s.record entry).audience = s.audience := by
  rw [audience_record, h, Option.toList_none, List.append_nil]

@[simp] theorem audience_write (record : LogRecord) (s : Shell) :
    (s.write record).audience = s.audience := by
  unfold write Page.write
  split
  · exact audience_record_silent (.console record) s rfl
  · rfl

@[simp] theorem audience_complain (level : LogLevel) (what : String) (thrown : Option String)
    (s : Shell) : (s.complain level what thrown).audience = s.audience := by
  unfold complain
  split <;> simp

theorem audience_shutdown (transport : Transport) (s : Shell) :
    (s.shutdown transport).audience = s.audience := by
  rw [shutdown, audience_complain]
  exact audience_record_silent (.closed transport.socket) s rfl

theorem audience_release (s : Shell) : s.release.audience = s.audience := by
  unfold release
  split
  · rfl
  · exact audience_shutdown _ s
  · exact audience_shutdown _ s

theorem audience_occupy (transport : Transport) (s : Shell) :
    (s.occupy transport).audience = s.audience := by
  simp [audience, occupy, Page.setHandlers, Page.setBinaryType, Page.record, Page.invocations,
    Page.Entry.invocation?]

theorem audience_openTransport (s : Shell) : s.openTransport.2.audience = s.audience := by
  cases hthrows : s.page.socketThrows with
  | some thrown =>
      rw [openTransport_of_throws hthrows]
      exact (audience_record_silent (.refused s.release.url) s.release rfl).trans
        (audience_release s)
  | none =>
      rw [openTransport_of_opens hthrows, audience_write, audience_occupy, audience_release]

theorem audience_closeTransport (s : Shell) : s.closeTransport.audience = s.audience := by
  unfold closeTransport
  split
  · exact audience_shutdown _ s
  · rfl
  · rfl

theorem audience_send (text : String) (s : Shell) : (s.send text).audience = s.audience := by
  unfold send
  split
  · next transport _ =>
      rw [audience_complain]
      exact audience_record_silent (.sent transport.socket text) s rfl
  · exact audience_write _ s
  · exact audience_write _ s

theorem audience_scheduleReconnect (delay : Nat) (s : Shell) :
    (s.scheduleReconnect delay).audience = s.audience := by
  unfold scheduleReconnect
  split
  · rw [audience_complain]
    unfold Page.setTimer
    split
    · rfl
    · exact audience_record_silent (.timer _ _) s rfl
  · exact audience_write _ s

theorem audience_enter (call : HostCall) (s : Shell) :
    (s.enter call).2.audience = s.audience.enter call := by
  have hsilent (hcall : call.invocation? = none) : s.audience.enter call = s.audience := by
    simp [Audience.enter, hcall]
  cases call with
  | openTransport => exact (audience_openTransport s).trans (hsilent rfl).symm
  | closeTransport => exact (audience_closeTransport s).trans (hsilent rfl).symm
  | send text => exact (audience_send text s).trans (hsilent rfl).symm
  | scheduleReconnect delay => exact (audience_scheduleReconnect delay s).trans (hsilent rfl).symm
  | stateChanged status =>
      by_cases hnone : s.registrations = 0
      · simp [enter, stateChanged, Audience.enter, audience, hnone]
      · rw [enter, stateChanged, if_neg hnone, Audience.enter, if_neg (by exact hnone)]
        exact audience_record (.state s.registrations status) s
  | deliver payload =>
      by_cases hnone : s.registrations = 0
      · simp [enter, deliver, Audience.enter, audience, hnone]
      · rw [enter, deliver, if_neg hnone, Audience.enter, if_neg (by exact hnone)]
        exact audience_record (.delivered s.registrations payload.render) s

theorem audience_view : host.View audience Audience.enter where
  note notice s := audience_write notice.record s
  enter := audience_enter
  leave _ s := audience_complain _ _ _ { s with throwing := none }

theorem joined_runScript (session : Session) (script : List CallbackStep) (s : Shell) :
    Audience.Joined s.audience (runScript session script s).2.audience := by
  fun_induction runScript session script s with
  | case1 | case3 => exact .of_eq rfl
  | case2 => exact ⟨Nat.le_succ _, rfl⟩
  | case4 s value rest error hinput ih => rwa [audience_record_silent _ _ rfl] at ih
  | case5 s rest ih => rwa [audience_record_silent _ _ rfl] at ih

theorem joined_prepare (action : Client.Step) (s : Shell) :
    Audience.Joined s.audience (s.prepare action).audience := by
  cases action with
  | start => exact ⟨Nat.le_succ _, rfl⟩
  | send value | look | timer timer | conditions conditions | wait | free => exact .of_eq rfl
  | event socket event =>
      simp only [prepare]
      split
      · exact .of_eq (audience_write _ s)
      · exact .of_eq rfl
      · exact .of_eq rfl
  | initLogging =>
      simp only [prepare, Page.installLogging]
      split
      · exact .of_eq (audience_write _ s)
      · exact .of_eq rfl

end Shell

end ResumableSession
