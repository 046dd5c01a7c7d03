import ResumableSession.Proofs.Client.Life
import ResumableSession.Proofs.Dispatch.Likeness

/-!
Callbacks that throw.

What a callback throws is shown on the console, and nothing else comes of it.  A client whose
callbacks throw, and one whose callbacks do the same without throwing, always have the same
session, and apart from its console the page is the same too.
-/

namespace ResumableSession

/-- The same reaction, which throws nothing. -/
def Reaction.calm {α : Type} (reaction : Reaction α) : Reaction α :=
  { reaction with throws := none }

@[simp] theorem Reaction.steps_calm {α : Type} (reaction : Reaction α) :
    reaction.calm.steps = reaction.steps :=
  rfl

@[simp] theorem Reaction.calm_comp_calm {α : Type} :
    (Reaction.calm ∘ Reaction.calm : Reaction α → Reaction α) = Reaction.calm :=
  rfl

def Page.Entry.ofConsole : Page.Entry → Bool
  | .console _ => true
  | .socket _ _ | .refused _ | .binaryType _ | .sent _ _ | .closed _ | .timer _ _ | .state _ _
  | .delivered _ _ | .looked _ | .failed _ => false

/-- A page without what its console shows. -/
def Page.quiet (p : Page) : Page :=
  { p with log := p.log.filter fun entry => !entry.ofConsole }

def Shell.calm (s : Shell) : Shell :=
  { s with page := s.page.quiet, reactions := s.reactions.map Reaction.calm, throwing := none }

namespace Shell

variable {s t : Shell}

/-! ## The console -/

theorem quiet_quiet (p : Page) : p.quiet.quiet = p.quiet := by
  simp [Page.quiet]

theorem quiet_record (entry : Page.Entry) (p : Page) :
    (p.record entry).quiet = (p.quiet.record entry).quiet := by
  simp [Page.quiet, Page.record]

@[simp] theorem quiet_write (record : LogRecord) (p : Page) : (p.write record).quiet = p.quiet := by
  unfold Page.write
  split
  · simp [Page.quiet, Page.record, Page.Entry.ofConsole]
  · rfl

@[simp] theorem calm_calm (s : Shell) : s.calm.calm = s.calm := by
  simp [calm, quiet_quiet]

theorem calm_record (entry : Page.Entry) (s : Shell) :
    (s.record entry).calm = (s.calm.record entry).calm := by
  simp [calm, record, quiet_record entry s.page]

@[simp] theorem calm_write (record : LogRecord) (s : Shell) : (s.write record).calm = s.calm := by
  simp [calm, write]

@[simp] theorem calm_complain (level : LogLevel) (what : String) (thrown : Option String)
    (s : Shell) : (s.complain level what thrown).calm = s.calm := by
  unfold complain
  split <;> simp

/-! ## Connections -/

theorem calm_shutdown (transport : Transport) (s : Shell) :
    (s.shutdown transport).calm = (s.calm.shutdown transport).calm := by
  simp only [shutdown, calm_complain]
  simp [calm, Page.close, Page.setHandlers, Page.quiet, Page.record]

theorem calm_release (s : Shell) : s.release.calm = s.calm.release.calm := by
  have hslot : s.calm.slot = s.slot := rfl
  unfold release
  rw [hslot]
  split
  · exact (calm_calm s).symm
  · exact congrArg (fun u : Shell => { u with slot := .vacant }) (calm_shutdown _ s)
  · exact congrArg (fun u : Shell => { u with slot := .vacant }) (calm_shutdown _ s)

theorem socketThrows_calm (s : Shell) : s.calm.page.socketThrows = s.page.socketThrows :=
  rfl

theorem sockets_release_calm (s : Shell) :
    s.calm.release.page.sockets = s.release.page.sockets :=
  (congrArg (fun u => u.page.sockets) (calm_release s)).symm

def refuse (generation : Nat) (s : Shell) : Shell :=
  { s with generation }.record (.refused s.url)

theorem calm_refuse (generation : Nat) (s : Shell) :
    (s.refuse generation).calm = (s.calm.refuse generation).calm :=
  calm_record (.refused s.url) { s with generation }

theorem calm_occupy (transport : Transport) (s : Shell) :
    (s.occupy transport).calm = (s.calm.occupy transport).calm := by
  simp [calm, occupy, Page.setBinaryType, Page.setHandlers, Page.quiet, Page.record]

theorem calm_openTransport (s : Shell) : s.openTransport.2.calm = s.calm.openTransport.2.calm := by
  cases hthrows : s.page.socketThrows with
  | some thrown =>
      have hrefused (u : Shell) (h : u.page.socketThrows = some thrown) :
          u.openTransport.2 = u.release.refuse (u.generation + 1) := by
        rw [openTransport_of_throws h]
        rfl
      rw [hrefused s hthrows, hrefused s.calm hthrows, calm_refuse, calm_refuse _ s.calm.release,
        calm_release]
      rfl
  | none =>
      rw [openTransport_of_opens hthrows, openTransport_of_opens (s := s.calm) hthrows,
        calm_write, calm_write, calm_occupy, calm_occupy _ s.calm.release, calm_release,
        sockets_release_calm]
      rfl

theorem calm_closeTransport (s : Shell) : s.closeTransport.calm = s.calm.closeTransport.calm := by
  have hslot : s.calm.slot = s.slot := rfl
  unfold closeTransport
  rw [hslot]
  split
  · next transport _ =>
      exact congrArg (fun u : Shell => { u with slot := .retired transport }) (calm_shutdown _ s)
  · exact (calm_calm s).symm
  · exact (calm_calm s).symm

theorem calm_send (text : String) (s : Shell) : (s.send text).calm = (s.calm.send text).calm := by
  have hslot : s.calm.slot = s.slot := rfl
  unfold send
  rw [hslot]
  split
  · next transport _ =>
      rw [calm_complain, calm_complain]
      exact calm_record (.sent transport.socket text) s
  · simp
  · simp

theorem calm_scheduleReconnect (delay : Nat) (s : Shell) :
    (s.scheduleReconnect delay).calm = (s.calm.scheduleReconnect delay).calm := by
  have hwindow : s.calm.page.hasWindow = s.page.hasWindow := rfl
  unfold scheduleReconnect
  rw [hwindow]
  split
  · have hthrows : s.calm.page.timerThrows = s.page.timerThrows := rfl
    simp only [calm_complain, Page.setTimer, hthrows]
    split <;> simp [calm, Page.quiet, Page.record]
  · simp

/-! ## Callbacks -/

theorem take_calm (cue : String) (reactions : List (Reaction CallbackStep)) :
    Reaction.take cue (reactions.map Reaction.calm) =
      ((Reaction.take cue reactions).1.map Reaction.calm,
        (Reaction.take cue reactions).2.map Reaction.calm) := by
  induction reactions with
  | nil => rfl
  | cons reaction rest ih =>
      have hcue : reaction.calm.cue = reaction.cue := rfl
      simp only [List.map_cons, Reaction.take, hcue, ih]
      split <;> rfl

theorem calm_giveCue (cue : String) (s : Shell) :
    (s.giveCue cue).calm = (s.calm.giveCue cue).calm := by
  have htake : Reaction.take cue s.calm.reactions = _ := take_calm cue s.reactions
  simp only [giveCue, htake]
  cases (Reaction.take cue s.reactions).1 <;> simp [calm, quiet_quiet, Reaction.stepsOf]

theorem calm_stateChanged (status : Status) (s : Shell) :
    (s.stateChanged status).calm = (s.calm.stateChanged status).calm := by
  have hregistrations : s.calm.registrations = s.registrations := rfl
  unfold stateChanged
  rw [hregistrations]
  split
  · exact (calm_calm s).symm
  · rw [calm_giveCue, calm_record, ← calm_giveCue]

theorem calm_deliver (payload : Json) (s : Shell) :
    (s.deliver payload).calm = (s.calm.deliver payload).calm := by
  have hregistrations : s.calm.registrations = s.registrations := rfl
  unfold deliver
  rw [hregistrations]
  split
  · exact (calm_calm s).symm
  · rw [calm_giveCue, calm_record, ← calm_giveCue]

theorem runScript_calm (session : Session) {script : List CallbackStep} {s t : Shell}
    (hlike : s.calm = t.calm) :
    (runScript session script s).1 = (runScript session script t).1 ∧
      (runScript session script s).2.calm = (runScript session script t).2.calm := by
  induction script generalizing s t with
  | nil => exact ⟨rfl, congrArg (fun u : Shell => { u with script := [] }) hlike⟩
  | cons step rest ih =>
      have hrecord (entry : Page.Entry) : (s.record entry).calm = (t.record entry).calm := by
        rw [calm_record, hlike, ← calm_record]
      cases step with
      | start => exact ⟨rfl, congrArg (fun u : Shell => { u.register with script := rest }) hlike⟩
      | look => exact ih (hrecord _)
      | send value =>
          cases hinput : value.input with
          | ok input =>
              have hrun (u : Shell) : runScript session (.send value :: rest) u =
                  (some (.submit input), { u with script := rest }) := by
                simp only [runScript, hinput]
              rw [hrun, hrun]
              exact ⟨rfl, congrArg (fun u : Shell => { u with script := rest }) hlike⟩
          | error error =>
              simp only [runScript, hinput]
              exact ih (hrecord _)

/-! ## The host -/

theorem overlooks_calm : host.Overlooks calm where
  generation s t hlike := by
    have hslot : s.calm.slot = t.calm.slot := congrArg Shell.slot hlike
    exact generation_of_slot hslot
  note notice s t hlike := by
    have hsame (u : Shell) : (host.note notice u).calm = u.calm := calm_write notice.record u
    rw [hsame, hsame, hlike]
  enter call s t hlike := by
    have hboth {op : Shell → Shell} (h : ∀ u, (op u).calm = (op u.calm).calm) :
        (op s).calm = (op t).calm := by
      rw [h s, hlike, ← h t]
    cases call with
    | openTransport =>
        refine ⟨?_, hboth calm_openTransport⟩
        have hthrows : s.calm.page.socketThrows = t.calm.page.socketThrows := by rw [hlike]
        simp only [socketThrows_calm] at hthrows
        simp only [host, enter, failure_openTransport, hthrows]
    | closeTransport => exact ⟨rfl, hboth calm_closeTransport⟩
    | send text => exact ⟨rfl, hboth (calm_send text)⟩
    | scheduleReconnect delay => exact ⟨rfl, hboth (calm_scheduleReconnect delay)⟩
    | stateChanged status => exact ⟨rfl, hboth (calm_stateChanged status)⟩
    | deliver payload => exact ⟨rfl, hboth (calm_deliver payload)⟩
  resume session s t hlike := by
    have hscript : s.calm.script = t.calm.script := congrArg Shell.script hlike
    have hsame : t.script = s.script := hscript.symm
    simp only [host, hsame]
    exact runScript_calm session hlike
  leave call s t hlike := by
    have hsame (u : Shell) : (host.leave call u).calm = u.calm := by
      simp only [host, leave, calm_complain]
      rfl
    rw [hsame, hsame, hlike]

theorem calm_prepare (action : Client.Step) (s : Shell) :
    (s.prepare action).calm = (s.calm.prepare action).calm := by
  cases action with
  | start | send value | look | wait | free => exact (calm_calm _).symm
  | timer timer =>
      exact (calm_calm { s with page := s.page.removeTimer timer }).symm
  | conditions conditions =>
      exact (calm_calm { s with page := conditions.apply s.page }).symm
  | initLogging =>
      have hlogging : s.calm.page.logging = s.page.logging := rfl
      simp only [prepare, Page.installLogging, hlogging]
      split
      · simp [calm, quiet_quiet]
      · exact (calm_calm { s with page := { s.page with logging := true } }).symm
  | event socket event =>
      have hlistener : s.calm.page.listener? socket = s.page.listener? socket := rfl
      simp only [prepare, hlistener]
      split <;> simp

end Shell

/-! ## Clients -/

namespace Client

variable {c e : Client}

/-- Two clients that differ in what their callbacks throw, and in what was shown of it. -/
structure Alike (c e : Client) : Prop where
  dispatch : Dispatch.Alike Shell.calm c.dispatch e.dispatch
  freed : e.freed = c.freed

namespace Alike

theorem session (hlike : Alike c e) : e.session = c.session :=
  hlike.dispatch.session

theorem page (hlike : Alike c e) : e.page.quiet = c.page.quiet :=
  congrArg Shell.page hlike.dispatch.host

theorem modifyShell {change : Shell → Shell} (h : ∀ s, (change s).calm = (change s.calm).calm)
    (hlike : Alike c e) : Alike (c.modifyShell change) (e.modifyShell change) where
  dispatch := by
    obtain ⟨hsession, hqueue, hstage, hhost⟩ := hlike.dispatch
    refine ⟨hsession, hqueue, hstage, ?_⟩
    exact (h _).trans (hhost ▸ (h _).symm)
  freed := hlike.freed

theorem preface (hlike : Alike c e) (action : Step) :
    Alike (c.preface action) (e.preface action) := by
  cases action with
  | free =>
      simp only [Client.preface, Client.free, hlike.freed]
      split
      · exact hlike
      · exact ⟨(hlike.modifyShell Shell.calm_release).dispatch, rfl⟩
  | start | send value | look | event socket event | timer timer | conditions conditions
  | initLogging | wait => exact hlike.modifyShell (Shell.calm_prepare _)

theorem call? (hlike : Alike c e) (action : Step) : e.call? action = c.call? action := by
  have hpage (p : Page) : p.quiet.call? action = p.call? action := by
    cases action <;> rfl
  have hcall : e.page.call? action = c.page.call? action := by
    rw [← hpage, hlike.page, hpage]
  cases action with
  | timer timer => simp only [Client.call?, hlike.freed, hcall]
  | start | send value | look | event socket event | conditions conditions | initLogging | wait
  | free => exact hcall

theorem act (hlike : Alike c e) (action : Step) : Alike (c.act action) (e.act action) := by
  have hpreface := hlike.preface action
  simp only [Client.act, hlike.call? action]
  split
  · exact hpreface
  · exact ⟨hpreface.dispatch.accept Shell.overlooks_calm _, hpreface.freed⟩

theorem step (hlike : Alike c e) (hidle : c.dispatch.stage = .idle) (action : Step) :
    Alike (c.step action).2 (e.step action).2 := by
  have hact := hlike.act action
  rw [step_eq_act action hidle, step_eq_act action (hlike.dispatch.stage.trans hidle)]
  exact ⟨hact.dispatch.settle Shell.overlooks_calm, hact.freed⟩

theorem run (hlike : Alike c e) (hidle : c.dispatch.stage = .idle) (actions : List Step) :
    Alike (c.run actions) (e.run actions) := by
  induction actions generalizing c e with
  | nil => exact hlike
  | cons action rest ih =>
      exact ih (hlike.step hidle action) (idle_step action hidle)

end Alike

theorem alike_new {options : Options} {reactions others : List (Reaction CallbackStep)}
    {page : Page} (hsame : others.map Reaction.calm = reactions.map Reaction.calm)
    (hnew : new options reactions page = .ok c) :
    ∃ other, new options others page = .ok other ∧ Alike c other := by
  have hlike (url : String) :
      Alike { dispatch := { session := .new options.config, host := { page, url, reactions } } }
        { dispatch :=
          { session := .new options.config, host := { page, url, reactions := others } } } :=
    ⟨⟨rfl, rfl, rfl, by simp only [Shell.calm, hsame]⟩, rfl⟩
  unfold new at hnew ⊢
  cases hurl : options.url with
  | some url =>
      rw [hurl] at hnew
      obtain rfl := Except.ok.inj hnew
      exact ⟨_, rfl, hlike url⟩
  | none =>
      cases hdefault : page.defaultUrl with
      | error error =>
          rw [hurl, hdefault] at hnew
          contradiction
      | ok url =>
          rw [hurl, hdefault] at hnew
          obtain rfl := Except.ok.inj hnew
          exact ⟨_, rfl, hlike url⟩

end Client

end ResumableSession
