import ResumableSession.Proofs.Dispatch.Fifo
import ResumableSession.Proofs.Session.CatchUp

/-!
What the other side gets to see of a session.

The host may feed the session while it is carrying out an effect, so the session can be ahead of
what has been sent.  Still the requests on each connection come in the order of their numbers: they
start with the first one that was pending when the session was attached on the connection, and none
of them is left out or sent twice.  When the work is done and the session is attached, all requests
that are pending have been sent on the connection.
-/

namespace ResumableSession

def HostCall.text? : HostCall → Option String
  | .send text => some text
  | .openTransport | .closeTransport | .scheduleReconnect _ | .stateChanged _ | .deliver _ => none

namespace Dispatch

variable {σ : Type} {h : Host σ} {start : Dispatch σ} {effects : List Effect}

/-- The texts that are sent before the connection is closed. -/
def texts (calls : List HostCall) : List String :=
  (calls.takeWhile (· ≠ .closeTransport)).filterMap HostCall.text?

theorem texts_calls (effects : List Effect) :
    texts (effects.filterMap Effect.call?) = (sent effects).map ClientMessage.frame := by
  induction effects with
  | nil => rfl
  | cons effect rest ih =>
      cases effect with
      | closeTransport => rfl
      | send message => exact congrArg (message.frame :: ·) ih
      | openTransport | scheduleReconnect delay | stateChanged status | deliver payload
      | report error => exact ih

theorem count_calls (effects : List Effect) :
    (effects.filterMap Effect.call?).count .openTransport = effects.count .openTransport := by
  rw [List.count_filterMap]
  refine List.countP_congr fun effect _ => ?_
  simp [Effect.call?_eq_open]

theorem exists_of_calls {before later : List HostCall}
    (h : effects.filterMap Effect.call? = before ++ .openTransport :: later) :
    ∃ earlier rest, effects = earlier ++ .openTransport :: rest ∧
      earlier.filterMap Effect.call? = before ∧ rest.filterMap Effect.call? = later := by
  obtain ⟨earlier, others, rfl, hearlier, hothers⟩ := List.filterMap_eq_append_iff.mp h
  obtain ⟨silent, effect, rest, rfl, hsilent, heffect, hrest⟩ :=
    List.filterMap_eq_cons_iff.mp hothers
  obtain rfl := Effect.call?_eq_open.mp heffect
  refine ⟨earlier ++ silent, rest, by rw [List.append_assoc], ?_, hrest⟩
  rw [List.filterMap_append, List.filterMap_eq_nil_iff.mpr hsilent, List.append_nil, hearlier]

theorem exists_of_prefix {openers messages : List ClientMessage} {requests : List Request}
    (hfewer : messages <+: openers ++ requests.map .request) :
    ∃ first fewer, messages = first ++ fewer.map .request ∧ first <+: openers ∧
      fewer <+: requests := by
  refine ⟨openers.take messages.length, requests.take (messages.length - openers.length), ?_,
    List.take_prefix _ _, List.take_prefix _ _⟩
  rw [List.map_take, ← List.take_append]
  exact List.prefix_iff_eq_take.mp hfewer

/-- What is handed to the host for a connection, from its opening on: openers, and then requests
that catch up. -/
structure Handed (welcomes : List Session) (calls : List HostCall) (openers : List ClientMessage)
    (requests : List Request) : Prop where
  requestless : ∀ request, .request request ∉ openers
  texts_eq : texts calls = (openers ++ requests.map ClientMessage.request).map ClientMessage.frame
  answered : Session.CatchesUp welcomes requests

section

variable {connection : Nat} {final : Session} {welcomes : List Session}
  {openers : List ClientMessage} {requests : List Request}

theorem Handed.of_carries
    (hcarries : Session.Carries connection final effects welcomes openers requests) :
    Handed welcomes (effects.filterMap Effect.call?) openers requests where
  requestless := hcarries.requestless
  texts_eq := by rw [texts_calls, hcarries.sent]
  answered := hcarries.answered

theorem exists_handed {waiting : List Effect}
    (hcarries : Session.Carries connection final (effects ++ waiting) welcomes openers requests) :
    ∃ first fewer, Handed welcomes (effects.filterMap Effect.call?) first fewer := by
  have hsent : sent effects <+: openers ++ requests.map .request := by
    rw [← hcarries.sent]
    exact sent_prefix
  obtain ⟨first, fewer, hmessages, hfirst, hfewer⟩ := exists_of_prefix hsent
  refine ⟨first, fewer, fun request hmem => ?_, ?_, hcarries.answered.of_prefix hfewer⟩
  · exact hcarries.requestless request (hfirst.subset hmem)
  · rw [texts_calls, hmessages]

end

/-! ## Runs on record -/

structure Record (σ : Type) where
  inputs : List Input := []
  taken : List Effect := []
  calls : List HostCall := []
  dispatch : Dispatch σ

def Record.follow (h : Host σ) (steps : Nat) (r : Record σ) : Record σ :=
  match steps with
  | 0 => r
  | steps + 1 =>
      match r.dispatch.step? h with
      | none => r
      | some next =>
          Record.follow h steps ⟨r.inputs ++ (r.dispatch.fed? h).toList,
            r.taken ++ r.dispatch.due?.toList, r.calls ++ r.dispatch.handed h, next⟩

def Record.play (h : Host σ) (steps : Nat) (script : List Call) (r : Record σ) : Record σ :=
  match script with
  | [] => r
  | call :: rest =>
      if r.dispatch.stage = .idle then
        Record.play h steps rest <| Record.follow h steps
          { r with inputs := r.inputs ++ (r.dispatch.input? h call).toList,
                   dispatch := r.dispatch.accept h call }
      else r

theorem Record.trace_follow (steps : Nat) {r : Record σ}
    (htrace : Trace h start r.inputs r.taken r.calls r.dispatch) :
    Trace h start (r.follow h steps).inputs (r.follow h steps).taken (r.follow h steps).calls
      (r.follow h steps).dispatch := by
  induction steps generalizing r with
  | zero => exact htrace
  | succ steps ih =>
      unfold follow
      split
      · exact htrace
      · next next hstep => exact ih (htrace.step hstep)

theorem Record.trace_play (steps : Nat) (script : List Call) {r : Record σ}
    (htrace : Trace h start r.inputs r.taken r.calls r.dispatch) :
    Trace h start (r.play h steps script).inputs (r.play h steps script).taken
      (r.play h steps script).calls (r.play h steps script).dispatch := by
  induction script generalizing r with
  | nil => exact htrace
  | cons call rest ih =>
      unfold play
      split
      · next hidle => exact ih (trace_follow steps (htrace.call hidle call))
      · exact htrace

/-! ## The requests on a connection -/

/-- Whatever the host does while it carries out an effect, the requests that it is handed between
the opening of a connection and its end follow one another from the first one that was pending when
the session was attached on it.  When a call from outside is over and the session is attached, they
include every request that is pending. -/
theorem requests_catch_up (h : Host σ) (config : Session.Config) (host : σ) {inputs : List Input}
    {taken : List Effect} {calls : List HostCall} {d : Dispatch σ}
    (htrace : Trace h { session := .new config, host } inputs taken calls d)
    (hsingle : ∀ connection,
      Session.successes ((Session.new config).inbound connection inputs) ≤ 1) :
    let welcomes connection := (Session.new config).welcomesOn connection inputs
    (∀ before later, calls = before ++ .openTransport :: later →
      ∃ openers requests,
        Handed (welcomes (before.count .openTransport + 1)) later openers requests) ∧
    (d.stage = .idle → d.session.status = .attached →
      ∃ before later openers requests welcome,
        calls = before ++ .openTransport :: later ∧
        .openTransport ∉ later ∧ .closeTransport ∉ later ∧
        before.count .openTransport + 1 = d.session.attempts ∧
        welcomes d.session.attempts = [welcome] ∧ Handed [welcome] later openers requests ∧
        Consecutive welcome.firstPending d.session.nextRequestId requests ∧
        ∀ entry ∈ d.session.outbox.entries, entry ∈ requests) := by
  intro welcomes
  obtain ⟨hsession, heffects, hrest⟩ := htrace.ordered rfl
  -- The calls are those for the effects that were taken out, of which more is known.
  obtain rfl := htrace.calls_eq
  constructor
  · intro before later hcalls
    obtain ⟨earlier, rest, rfl, rfl, rfl⟩ := exists_of_calls hcalls
    rw [List.append_assoc, List.cons_append] at heffects
    obtain ⟨openers, requests, hcarries⟩ :=
      Session.steps_carries config inputs heffects.symm (hsingle _)
    rw [count_calls]
    exact exists_handed hcarries
  · intro hidle hattached
    rw [hrest hidle, List.append_nil] at heffects
    rw [hsession] at hattached ⊢
    obtain ⟨earlier, rest, hsplit, hlast, hcount⟩ :=
      Session.steps_last_opening config inputs (hattached ▸ rfl)
    obtain ⟨openers, requests, hcarries⟩ := Session.steps_carries config inputs hsplit (hsingle _)
    obtain ⟨hopen, hwelcome⟩ := hcarries.current (hattached ▸ rfl) hcount.symm
    obtain ⟨welcome, hwelcomes, hrequests, hpending⟩ := hwelcome hattached
    rw [hwelcomes] at hcarries
    refine ⟨earlier.filterMap Effect.call?, rest.filterMap Effect.call?, openers, requests,
      welcome, ?_, ?_, ?_, ?_, ?_, .of_carries hcarries, hrequests, hpending⟩
    · have hcalls := congrArg (List.filterMap Effect.call?) (heffects.trans hsplit)
      rwa [List.filterMap_append] at hcalls
    · simpa [Effect.call?_eq_open] using hlast
    · simpa [Effect.call?_eq_close] using hopen
    · rw [count_calls, hcount]
    · rw [← hcount]
      exact hwelcomes

/-- A host that has the session send another request whenever it is attached, and connect again
when it should wait. -/
def eager : Rehearsal :=
  { reactions :=
      [{ cue := "AttachedToSession", steps := [.call (.submit (.request .null))] },
        { cue := "reconnect", steps := [.call (.submit .connect)] },
        { cue := "AttachedToSession", steps := [.call (.submit (.request .null))] }] }

def greeting (requestCursor : Nat) : List UInt8 :=
  Text.Utf8.encode (Frame.wrap (ServerMessage.encode (.success "s:1" requestCursor ⟨"u", "g"⟩)))

def resumed : Record Rehearsal :=
  Record.play Rehearsal.host 40
    [.submit (.request .null), .submit .start, .event 1 .opened,
      .event 1 (.received (greeting 1000)), .event 1 (.lost .errored), .event 2 .opened,
      .event 2 (.received (greeting 1001))]
    { dispatch := { session := .new {}, host := eager } }

theorem resumed_requests_catch_up :
    let d := resumed.dispatch
    Trace Rehearsal.host { session := .new {}, host := eager } resumed.inputs resumed.taken
        resumed.calls d ∧
      (∀ connection,
        Session.successes ((Session.new {}).inbound connection resumed.inputs) ≤ 1) ∧
      d.stage = .idle ∧ d.session.status = .attached ∧
      ∃ before later openers requests welcome,
        resumed.calls = before ++ .openTransport :: later ∧
        .openTransport ∉ later ∧ .closeTransport ∉ later ∧
        before.count .openTransport + 1 = d.session.attempts ∧
        (Session.new {}).welcomesOn d.session.attempts resumed.inputs = [welcome] ∧
        Handed [welcome] later openers requests ∧
        Consecutive welcome.firstPending d.session.nextRequestId requests ∧
        ∀ entry ∈ d.session.outbox.entries, entry ∈ requests := by
  have htrace : Trace Rehearsal.host { session := .new {}, host := eager } resumed.inputs
      resumed.taken resumed.calls resumed.dispatch := Record.trace_play 40 _ .start
  have hend : resumed.dispatch.stage = .idle ∧ resumed.dispatch.session.status = .attached ∧
      resumed.dispatch.session.attempts = 2 := by
    decide +kernel
  obtain ⟨hidle, hattached, hattempts⟩ := hend
  have hsingle (connection : Nat) :
      Session.successes ((Session.new {}).inbound connection resumed.inputs) ≤ 1 := by
    have hused : ∀ connection < 3,
        Session.successes ((Session.new {}).inbound connection resumed.inputs) ≤ 1 := by
      decide +kernel
    rcases Nat.lt_or_ge connection 3 with hlt | hge
    · exact hused connection hlt
    · rw [(htrace.ordered rfl).session] at hattempts
      have hunused : ((Session.new {}).steps resumed.inputs).1.attempts < connection :=
        Nat.lt_of_le_of_lt (Nat.le_of_eq hattempts) hge
      rw [Session.inbound_eq_nil (.new {}) hunused, Session.successes, Frame.Queue.drain_nil]
      exact Nat.zero_le _
  have hcaught := requests_catch_up Rehearsal.host {} eager htrace hsingle
  exact ⟨htrace, hsingle, hidle, hattached, hcaught.2 hidle hattached⟩

end Dispatch

end ResumableSession
