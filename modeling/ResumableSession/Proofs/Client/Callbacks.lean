import ResumableSession.Proofs.Client.Audience
import ResumableSession.Proofs.Client.Throws

/-!
When callbacks are called.

Callbacks are called while effects are carried out, and they may feed the session again.  A
`History` has all moments of a client, also those in the middle of a callback, with the inputs that
reached the session from whichever side and the effects that were carried out.

Of these effects, each one that is to be heard of is heard of once, and in its turn.  This is so
because a client is `Asleep` as long as no callbacks are registered, and then there is nothing to be
heard of.
-/

namespace ResumableSession

/-! ## Clients without callbacks -/

structure Asleep (d : Dispatch Shell) : Prop where
  queue : d.queue = []
  status : d.session.status = .disconnected
  stage : d.stage = .idle ∨ d.stage = .draining
  timers : d.host.page.timers = []
  slot : d.host.slot = .vacant

def Shell.Heeded (s : Shell) : Prop :=
  s.registrations ≠ 0

theorem Shell.Heeded.of_joined {s t : Shell} (h : s.Heeded)
    (hjoined : Audience.Joined s.audience t.audience) : t.Heeded := by
  have hmore : s.registrations ≤ t.registrations := hjoined.registrations
  have hsome : s.registrations ≠ 0 := h
  simp only [Heeded]
  omega

theorem Shell.Heeded.step {d next : Dispatch Shell} (h : d.host.Heeded)
    (hstep : d.step? Shell.host = some next) :
    next.host.Heeded ∧ next.host.page.invocations =
      d.host.page.invocations ++ d.due?.toList.filterMap Effect.invocation? := by
  rcases Shell.audience_view.step hstep with ⟨hdue, hresume⟩ | hcalled
  · have hjoined := Shell.joined_runScript d.session d.host.script d.host
    refine ⟨h.of_joined (hresume ▸ hjoined), ?_⟩
    rw [hdue, Option.toList_none, List.filterMap_nil, List.append_nil]
    exact (congrArg Audience.heard hresume).trans hjoined.heard
  · have hsome : d.host.audience.registrations ≠ 0 := h
    rw [Audience.elim_enter hsome] at hcalled
    have hregistrations : next.host.registrations = d.host.registrations :=
      congrArg Audience.registrations hcalled
    exact ⟨fun hnone => h (hregistrations.symm.trans hnone), congrArg Audience.heard hcalled⟩

namespace Asleep

variable {d next : Dispatch Shell}

theorem due? (h : Asleep d) : d.due? = none := by
  unfold Dispatch.due?
  rw [h.queue]
  split <;> rfl

theorem step (h : Asleep d) (hstep : d.step? Shell.host = some next) :
    Asleep next ∧ next.host = d.host := by
  have hcalling {call : HostCall} {failure : Option String} :
      d.stage ≠ .calling call failure := by
    rcases h.stage with hstage | hstage <;> simp [hstage]
  cases Dispatch.step?_stepped hstep with
  | rested stage queue => exact ⟨⟨h.queue, h.status, .inl rfl, h.timers, h.slot⟩, rfl⟩
  | executed effect rest stage queue =>
      rw [h.queue] at queue
      contradiction
  | called call failure inner host stage resume => exact absurd stage hcalling
  | finished call failure host stage resume => exact absurd stage hcalling

theorem request (h : Asleep d) (payload : Json) :
    Asleep (d.accept Shell.host (.submit (.request payload))) := by
  have hfed : Asleep (d.feed (.request payload)) :=
    ⟨by simp [Dispatch.feed, Session.step, Session.request, h.queue, h.status], h.status, h.stage,
      h.timers, h.slot⟩
  simp only [Dispatch.accept, Dispatch.wake]
  split
  · exact ⟨hfed.queue, hfed.status, .inr rfl, hfed.timers, hfed.slot⟩
  · exact hfed
  · exact hfed

theorem event (h : Asleep d) (generation : Nat) (event : TransportEvent) :
    Asleep (d.accept Shell.host (.event generation event)) := by
  have hnone : Shell.host.generation d.host ≠ some generation := by
    simp [Shell.host, Shell.current?, h.slot]
  have hfixtures := Shell.fixtures_view.accept (.event generation event) d
  simp only [Dispatch.accept, if_neg hnone] at hfixtures ⊢
  exact ⟨h.queue, h.status, h.stage, (congrArg Fixtures.timers hfixtures).trans h.timers,
    (congrArg Fixtures.slot hfixtures).trans h.slot⟩

end Asleep

namespace Client

variable {options : Options} {reactions : List (Reaction CallbackStep)} {page : Page}
  {start c : Client} {inputs : List Input} {taken : List Effect}

theorem joined_preface (action : Step) (c : Client) :
    Audience.Joined c.dispatch.host.audience (c.preface action).dispatch.host.audience := by
  cases action with
  | free =>
      simp only [preface, free]
      split
      · exact .of_eq rfl
      · exact .of_eq (Shell.audience_release _)
  | start | send value | look | event socket event | timer timer | conditions conditions
  | initLogging | wait => exact Shell.joined_prepare _ _

theorem joined_act (action : Step) (c : Client) :
    Audience.Joined c.dispatch.host.audience (c.act action).dispatch.host.audience := by
  have hpreface := joined_preface action c
  unfold act
  split
  · exact hpreface
  · next call _ =>
      have haccept := Shell.audience_view.accept call (c.preface action).dispatch
      exact haccept ▸ hpreface

theorem heeded_start (c : Client) : (c.act .start).dispatch.host.Heeded := by
  have haccept := Shell.audience_view.accept (.submit .start) (c.prepare .start).dispatch
  have hregistrations : (c.act .start).dispatch.host.registrations =
      c.dispatch.host.registrations + 1 := congrArg Audience.registrations haccept
  rw [Shell.Heeded, hregistrations]
  exact Nat.succ_ne_zero _

end Client

theorem Asleep.preface {c : Client} (h : Asleep c.dispatch) (action : Client.Step) :
    Asleep (c.preface action).dispatch := by
  have hprepare : Asleep (c.prepare action).dispatch := by
    have hfixtures := Shell.fixtures_prepare action c.dispatch.host
    refine ⟨h.queue, h.status, h.stage, (congrArg Fixtures.timers hfixtures).trans ?_,
      (congrArg Fixtures.slot hfixtures).trans ?_⟩
    · cases action <;> simp [Fixtures.prepare, Shell.fixtures, h.timers]
    · cases action <;> exact h.slot
  cases action with
  | free =>
      have hrelease : c.dispatch.host.release = c.dispatch.host := by
        simp only [Shell.release, h.slot]
      simp only [Client.preface, Client.free, Client.modifyShell, hrelease]
      split <;> exact h
  | start | send value | look | event socket event | timer timer | conditions conditions
  | initLogging | wait => exact hprepare

theorem Asleep.act {c : Client} (h : Asleep c.dispatch) {action : Client.Step}
    (hother : action ≠ .start) : Asleep (c.act action).dispatch := by
  have hpreface := h.preface action
  unfold Client.act
  split
  · exact hpreface
  · next call hcall =>
      cases action with
      | start => contradiction
      | look | conditions conditions | initLogging | wait | free => contradiction
      | timer timer =>
          have htimers : c.page.timers = [] := h.timers
          simp [Client.call?, Page.call?, htimers] at hcall
      | send value =>
          cases hinput : value.input with
          | error error => simp [Client.call?, Page.call?, hinput, Except.toOption] at hcall
          | ok input =>
              obtain ⟨payload, rfl⟩ := OfferedValue.exists_request hinput
              obtain rfl : Call.submit (.request payload) = call := by
                simpa [Client.call?, Page.call?, hinput, Except.toOption] using hcall
              exact hpreface.request payload
      | event socket event =>
          obtain ⟨generation, -, hrest⟩ := Option.bind_eq_some_iff.mp hcall
          obtain ⟨happened, -, hsome⟩ := Option.bind_eq_some_iff.mp hrest
          obtain rfl := Option.some.inj hsome
          exact hpreface.event generation happened

namespace Client

variable {options : Options} {reactions : List (Reaction CallbackStep)} {page : Page}
  {start c : Client} {inputs : List Input} {taken : List Effect}

/-! ## Histories -/

/-- What an action feeds the session with. -/
def input? (action : Step) (c : Client) : Option Input :=
  (c.call? action).bind fun call => (c.preface action).dispatch.input? Shell.host call

/-- What can become of a client, with the inputs of its session and the effects that were carried
out. -/
inductive History (start : Client) : List Input → List Effect → Client → Prop where
  | start : History start [] [] start
  | acts {inputs : List Input} {taken : List Effect} {c : Client}
      (history : History start inputs taken c) (idle : c.dispatch.stage = .idle) (action : Step) :
      History start (inputs ++ (c.input? action).toList) taken (c.act action)
  | goesOn {inputs : List Input} {taken : List Effect} {c : Client} {next : Dispatch Shell}
      (history : History start inputs taken c) (hstep : c.dispatch.step? Shell.host = some next) :
      History start (inputs ++ (c.dispatch.fed? Shell.host).toList)
        (taken ++ c.dispatch.due?.toList) { c with dispatch := next }

theorem dispatch_preface (action : Step) (c : Client) :
    (c.preface action).dispatch =
      { c.dispatch with host := (c.preface action).dispatch.host } := by
  cases action with
  | free =>
      simp only [preface, free]
      split <;> rfl
  | start | send value | look | event socket event | timer timer | conditions conditions
  | initLogging | wait => rfl

namespace History

theorem trace (history : History start inputs taken c) :
    ∃ calls, Dispatch.Trace Shell.host start.dispatch inputs taken calls c.dispatch := by
  induction history with
  | start => exact ⟨_, .start⟩
  | @acts inputs taken c history idle action ih =>
      obtain ⟨calls, htrace⟩ := ih
      have hpreface := htrace.elsewhere idle (c.preface action).dispatch.host
      rw [← dispatch_preface] at hpreface
      have hidle : (c.preface action).dispatch.stage = .idle := by
        rw [dispatch_preface]
        exact idle
      refine ⟨calls, ?_⟩
      unfold act input?
      cases c.call? action with
      | none =>
          rw [Option.bind_none, Option.toList_none, List.append_nil]
          exact hpreface
      | some call => exact hpreface.call hidle call
  | goesOn history hstep ih =>
      obtain ⟨calls, htrace⟩ := ih
      exact ⟨_, htrace.step hstep⟩

theorem ordered (history : History start inputs taken c) (hempty : start.dispatch.queue = []) :
    Dispatch.Ordered start.dispatch inputs taken c.dispatch := by
  obtain ⟨calls, htrace⟩ := history.trace
  exact htrace.ordered hempty

theorem settle (history : History start inputs taken c) :
    (∃ more later, History start (inputs ++ more) (taken ++ later) c.settle) ∧
      c.settle.dispatch.stage = .idle := by
  refine Dispatch.settle_keeps (fun d => ∃ more later,
    History start (inputs ++ more) (taken ++ later) { c with dispatch := d }) ?_ ?_
  · rintro d next hstep ⟨more, later, hhistory⟩
    have hnext := hhistory.goesOn hstep
    rw [List.append_assoc, List.append_assoc] at hnext
    exact ⟨_, _, hnext⟩
  · refine ⟨[], [], ?_⟩
    rw [List.append_nil, List.append_nil]
    exact history

theorem run (history : History start inputs taken c) (hidle : c.dispatch.stage = .idle)
    (actions : List Step) :
    (∃ more later, History start (inputs ++ more) (taken ++ later) (c.run actions)) ∧
      (c.run actions).dispatch.stage = .idle := by
  induction actions generalizing c inputs taken with
  | nil =>
      refine ⟨⟨[], [], ?_⟩, hidle⟩
      rw [List.append_nil, List.append_nil]
      exact history
  | cons action rest ih =>
      obtain ⟨⟨more, later, hstep⟩, hrest⟩ := (history.acts hidle action).settle
      rw [← step_eq_act action hidle] at hstep hrest
      obtain ⟨⟨further, after, hrun⟩, hend⟩ := ih hstep hrest
      rw [List.append_assoc, List.append_assoc, List.append_assoc] at hrun
      exact ⟨⟨_, _, hrun⟩, hend⟩

/-! ## What is heard -/

section

variable (hasleep : Asleep start.dispatch)

include hasleep

theorem heeded_or_asleep (history : History start inputs taken c) :
    c.dispatch.host.Heeded ∨ Asleep c.dispatch := by
  induction history with
  | start => exact .inr hasleep
  | @acts inputs taken c history idle action ih =>
      by_cases hstart : action = .start
      · exact .inl (hstart ▸ heeded_start c)
      · exact ih.imp (·.of_joined (joined_act action c)) (·.act hstart)
  | goesOn history hstep ih =>
      rcases ih with heeded | asleep
      · exact .inl (heeded.step hstep).1
      · exact .inr (asleep.step hstep).1

theorem invocations (history : History start inputs taken c) :
    c.page.invocations = start.page.invocations ++ taken.filterMap Effect.invocation? := by
  induction history with
  | start => rw [List.filterMap_nil, List.append_nil]
  | @acts inputs taken c history idle action ih =>
      exact (joined_act action c).heard.trans ih
  | @goesOn inputs taken c next history hstep ih =>
      rw [List.filterMap_append, ← List.append_assoc, ← ih]
      rcases history.heeded_or_asleep hasleep with heeded | asleep
      · exact (heeded.step hstep).2
      · rw [asleep.due?, Option.toList_none, List.filterMap_nil, List.append_nil]
        exact congrArg (fun s : Shell => s.page.invocations) (asleep.step hstep).2

end

end History

/-- What the application has heard by the end of a call: of all accepted responses in the order of
their numbers, and of all changes of the status. -/
structure Informed (page : Page) (start : Session) (inputs : List Input) (c : Client) : Prop where
  consecutive : Consecutive 0 c.session.responseCursor
    ((start.turnsOf inputs).filterMap Session.Turn.accepted?)
  responses : c.page.responses = page.responses ++
    ((start.turnsOf inputs).filterMap Session.Turn.accepted?).map fun response =>
      response.payload.render
  states : c.page.states = page.states ++ (start.turnsOf inputs).filterMap Session.Turn.change?

theorem asleep_new (hnew : Client.new options reactions page = .ok start)
    (htimers : page.timers = []) : Asleep start.dispatch := by
  obtain ⟨url, rfl⟩ := new_dispatch hnew
  exact ⟨rfl, rfl, .inl rfl, htimers, rfl⟩

theorem History.informed (hnew : Client.new options reactions page = .ok start)
    (htimers : page.timers = []) (history : History start inputs taken c)
    (hidle : c.dispatch.stage = .idle) : Informed page start.session inputs c := by
  have hheard := history.invocations (asleep_new hnew htimers)
  have hordered := history.ordered (asleep_new hnew htimers).queue
  have htaken := hordered.effects
  rw [hordered.idle hidle, List.append_nil] at htaken
  rw [htaken] at hheard
  have hsession : c.session = (start.session.steps inputs).1 := hordered.session
  obtain ⟨url, rfl⟩ := new_dispatch hnew
  refine ⟨?_, ?_, ?_⟩
  · rw [hsession]
    exact Session.accepted_steps _ _
  · rw [Page.responses, hheard, List.filterMap_append, text?_invocations]
    refine congrArg (_ ++ ·) ?_
    refine (congrArg (List.map Json.render) (Session.deliveries_steps _ _)).trans ?_
    rw [List.map_map]
    rfl
  · rw [Page.states, hheard, List.filterMap_append, status?_invocations]
    exact congrArg (_ ++ ·) (Session.told_steps _ _)

/-- In all moments, also while callbacks feed the session, they have been called for the effects
that were carried out, in their order.  So at the end of a call, the application has heard of each
accepted response once, in the order of their numbers, and of each change of the status.  That a
callback throws shows on the console, and nowhere else. -/
theorem callbacks_once (hnew : Client.new options reactions page = .ok start)
    (htimers : page.timers = []) :
    (∀ inputs taken c, History start inputs taken c →
      taken ++ c.dispatch.queue = (start.session.steps inputs).2 ∧
      c.session = (start.session.steps inputs).1 ∧
      c.page.invocations = page.invocations ++ taken.filterMap Effect.invocation? ∧
      (c.dispatch.stage = .idle → Informed page start.session inputs c)) ∧
    (∀ actions, ∃ inputs taken, History start inputs taken (start.run actions) ∧
      (start.run actions).dispatch.stage = .idle) ∧
    ∀ others, others.map Reaction.calm = reactions.map Reaction.calm →
      ∃ other, Client.new options others page = .ok other ∧
        ∀ actions, (other.run actions).session = (start.run actions).session ∧
          (other.run actions).page.quiet = (start.run actions).page.quiet := by
  have hasleep := asleep_new hnew htimers
  have hidle : start.dispatch.stage = .idle := by
    obtain ⟨url, rfl⟩ := new_dispatch hnew
    rfl
  refine ⟨fun inputs taken c history => ?_, fun actions => ?_, fun others hsame => ?_⟩
  · have hordered := history.ordered hasleep.queue
    have hpage : start.page = page := by
      obtain ⟨url, rfl⟩ := new_dispatch hnew
      rfl
    exact ⟨hordered.effects, hordered.session, hpage ▸ history.invocations hasleep,
      history.informed hnew htimers⟩
  · have hstart : History start [] [] start := .start
    obtain ⟨⟨more, later, hrun⟩, hrest⟩ := hstart.run hidle actions
    exact ⟨_, _, hrun, hrest⟩
  · obtain ⟨other, hother, hlike⟩ := alike_new hsame hnew
    refine ⟨other, hother, fun actions => ?_⟩
    have hrun := hlike.run hidle actions
    exact ⟨hrun.session, hrun.page⟩

def jumping : List (Reaction CallbackStep) :=
  [{ cue := "AttachedToSession", steps := [.send (.text "1")], throws := some "attached" },
    { cue := "deliver", steps := [.send (.text "2"), .look], throws := some "delivered" }]

def jumpy : Client :=
  { dispatch :=
    { session := .new {}
      host := { page := {}, url := "wss://localhost/api/", reactions := jumping } } }

def answer (id : Nat) (payload : Json) : List UInt8 :=
  Text.Utf8.encode (Frame.wrap (ServerMessage.encode (.response ⟨id, 1000, payload⟩)))

def flurry : List Step :=
  [.start, .event 1 .opened,
    .event 1 (.message (.bytes
      (Dispatch.greeting 1000 ++ answer 0 .null ++ answer 1 (.bool true))))]

theorem jumpy_callbacks_once :
    Client.new { url := some "wss://localhost/api/" } jumping {} = .ok jumpy ∧
    (∃ inputs taken, History jumpy inputs taken (jumpy.run flurry) ∧
      Informed {} jumpy.session inputs (jumpy.run flurry)) ∧
    (jumpy.run flurry).session.responseCursor = 2 ∧
    (jumpy.run flurry).page.responses = ["null", "true"] ∧
    (jumpy.run flurry).page.states = [.awaitingConnect, .connected, .attached] ∧
    ∃ other, Client.new { url := some "wss://localhost/api/" } (jumping.map Reaction.calm) {} =
        .ok other ∧
      (other.run flurry).page.quiet = (jumpy.run flurry).page.quiet := by
  have hnew : Client.new { url := some "wss://localhost/api/" } jumping {} = .ok jumpy := rfl
  obtain ⟨hmoments, hruns, hcalm⟩ := callbacks_once hnew rfl
  obtain ⟨inputs, taken, history, hidle⟩ := hruns flurry
  obtain ⟨-, -, -, hinformed⟩ := hmoments inputs taken _ history
  obtain ⟨other, hother, hsame⟩ := hcalm (jumping.map Reaction.calm) rfl
  have hheard : (jumpy.run flurry).session.responseCursor = 2 ∧
      (jumpy.run flurry).page.responses = ["null", "true"] ∧
      (jumpy.run flurry).page.states = [.awaitingConnect, .connected, .attached] := by
    rw [Client.run, flurry, List.foldl_cons, List.foldl_cons, List.foldl_cons, List.foldl_nil,
      step_eq_advance .start 8 rfl rfl (by decide) (by decide +kernel),
      step_eq_advance (.event 1 .opened) 8 (by decide +kernel) (by decide +kernel) (by decide)
        (by decide +kernel),
      step_eq_advance (.event 1 (.message _)) 20 (by decide +kernel) (by decide +kernel)
        (by decide) (by decide +kernel)]
    decide +kernel
  obtain ⟨hcursor, hresponses, hstates⟩ := hheard
  exact ⟨hnew, ⟨inputs, taken, history, hinformed hidle⟩, hcursor, hresponses, hstates, other,
    hother, (hsame flurry).2⟩

end Client

end ResumableSession
