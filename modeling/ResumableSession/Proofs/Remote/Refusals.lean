import ResumableSession.Proofs.Remote.Finality

/-!
Calls that fail.

Nothing has changed when a call fails, whatever the state was.  So the calls of a history that
failed can be left out of it.  `Refused` lists what can be wrong with a message: it comes too early
or too late for the stage that its channel is in.
-/

namespace ResumableSession.Remote

/-! ## Failing without a trace -/

def Atomic (r : Remote) (answer : Answer) : Prop :=
  ∀ error, answer.1 = .error error → answer.2 = r

variable {r : Remote} {channel : Nat} {slot : Channel} {sessionId : String}

theorem atomic_error (error : RemoteError) (r : Remote) : Atomic r (.error error, r) :=
  fun _ _ => rfl

theorem atomic_ok (actions : List Action) (after : Remote) : Atomic r (.ok actions, after) :=
  fun _ h => nomatch h

theorem atomic_hello (profile : Profile) : Atomic r (r.hello channel slot profile) := by
  unfold hello
  split
  · exact atomic_error _ r
  · exact atomic_ok _ _

theorem atomic_createSession : Atomic r (r.createSession channel slot) := by
  unfold createSession
  split
  · exact atomic_error _ r
  · exact atomic_ok _ _

theorem atomic_attach (responseCursor : Nat) :
    Atomic r (r.attach channel slot sessionId responseCursor) := by
  unfold attach
  split
  · exact atomic_error _ r
  · split
    · exact atomic_ok _ _
    · dsimp only
      split <;> exact atomic_ok _ _

theorem atomic_request (request : Request) : Atomic r (r.request slot request) := by
  -- The outbox is looked at only when nothing can go wrong any more.
  unfold Remote.request
  split
  · exact atomic_error _ r
  · split
    · exact atomic_error _ r
    · dsimp only
      split <;> exact atomic_ok _ _

theorem atomic_handle (channel : Nat) (message : ClientMessage) (r : Remote) :
    Atomic r (r.handle channel message) := by
  unfold handle
  split
  · exact atomic_error _ r
  · split
    · exact atomic_ok _ _
    · cases message with
      | auth token => exact atomic_error _ r
      | hello profile => exact atomic_hello profile
      | createSession => exact atomic_createSession
      | attach sessionId responseCursor => exact atomic_attach responseCursor
      | request request => exact atomic_request request

theorem atomic_respond (sessionId : String) (payload : Json) (r : Remote) :
    Atomic r (r.respond sessionId payload) := by
  unfold respond
  split
  · exact atomic_error _ r
  · exact atomic_ok _ _

theorem atomic_dropSession (sessionId : String) (r : Remote) :
    Atomic r (r.dropSession sessionId) := by
  unfold dropSession
  split
  · exact atomic_error _ r
  · dsimp only
    split <;> exact atomic_ok _ _

theorem atomic_perform (call : Call) (r : Remote) : Atomic r (r.perform call) := by
  cases call with
  | openChannel | closeChannel => exact atomic_ok _ _
  | handle channel message => exact atomic_handle channel message r
  | respond sessionId payload => exact atomic_respond sessionId payload r
  | dropSession sessionId => exact atomic_dropSession sessionId r

/-! ## Histories without failures -/

/-- The calls that do not fail, one after the other. -/
def heeded (calls : List Call) (r : Remote) : List Call :=
  match calls with
  | [] => []
  | call :: rest =>
      match r.perform call with
      | (.ok _, after) => call :: after.heeded rest
      | (.error _, after) => after.heeded rest

theorem run_heeded (calls : List Call) (r : Remote) : r.run (r.heeded calls) = r.run calls := by
  induction calls generalizing r with
  | nil => rfl
  | cons call rest ih =>
      have hatomic := atomic_perform call r
      unfold heeded
      cases hcall : r.perform call with
      | mk result after =>
          rw [hcall] at hatomic
          have hrest : r.run (call :: rest) = after.run rest := by
            rw [run, List.foldl_cons, hcall]
            rfl
          cases result with
          | ok actions =>
              have hkept : r.run (call :: after.heeded rest) = after.run (after.heeded rest) := by
                rw [run, List.foldl_cons, hcall]
                rfl
              exact hkept.trans ((ih after).trans hrest.symm)
          | error error =>
              obtain rfl : after = r := hatomic error rfl
              exact (ih after).trans hrest.symm

/-! ## What can be wrong with a message -/

/-- A message that asks for a session to go on over its channel. -/
def asksForSession : ClientMessage → Prop
  | .createSession | .attach _ _ => True
  | .auth _ | .hello _ | .request _ => False

inductive Refused (r : Remote) (channel : Nat) : ClientMessage → RemoteError → Prop where
  | closed (message : ClientMessage) (missing : r.channel? channel = none) :
      Refused r channel message (.unknownChannel channel)
  | unwanted (token : String) (live : Live channel r) :
      Refused r channel (.auth token) (.unexpectedMessage "Auth")
  | greetedAgain (profile : Profile) (slot : Channel) (here : r.channel? channel = some slot)
      (live : slot.retired = false) (known : slot.profile.isSome) :
      Refused r channel (.hello profile) .duplicateHello
  | ungreeted (message : ClientMessage) (here : r.channel? channel = some {})
      (early : asksForSession message ∨ ∃ request, message = .request request) :
      Refused r channel message .missingHello
  | taken (message : ClientMessage) (asks : asksForSession message)
      (bound : (r.sessionOf? channel).isSome) :
      Refused r channel message (.unexpectedMessage message.tag)
  | unbound (request : Request) (profile : Profile)
      (here : r.channel? channel = some { profile := some profile }) :
      Refused r channel (.request request) (.unexpectedMessage "PackagedRequest")

theorem Sound.handle_refused (h : r.Sound) {message : ClientMessage} {error : RemoteError}
    (hrefused : Refused r channel message error) :
    r.handle channel message = (.error error, r) := by
  cases hrefused with
  | closed _ missing => rw [handle, missing]
  | unwanted token live =>
      obtain ⟨slot, hslot, hlive⟩ := live
      simp [handle, hslot, hlive, ClientMessage.tag]
  | greetedAgain profile slot here live known =>
      obtain ⟨given, hgiven⟩ := Option.isSome_iff_exists.mp known
      simp [handle, here, live, hello, hgiven]
  | ungreeted _ here early =>
      cases message with
      | createSession | attach => simp [handle, here, createSession, attach, greeted]
      | request => simp [handle, here, Remote.request, bound]
      | auth | hello => simp [asksForSession] at early
  | taken _ asks bound =>
      obtain ⟨name, hname⟩ := Option.isSome_iff_exists.mp bound
      obtain ⟨s, found, hchannel⟩ := channelOf?_eq_some.mp ((h.agree channel name).mp hname)
      have here := h.bound_slot found hchannel
      cases message with
      | createSession | attach => simp [handle, here, createSession, attach, greeted]
      | auth | hello | request => contradiction
  | unbound request profile here => simp [handle, here, Remote.request, bound]

theorem Sound.refused_of_error (h : r.Sound) {message : ClientMessage} {error : RemoteError}
    (herror : (r.handle channel message).1 = .error error) : Refused r channel message error := by
  unfold handle at herror
  cases here : r.channel? channel with
  | none =>
      rw [here] at herror
      obtain rfl := Except.error.inj herror
      exact .closed message here
  | some slot =>
      rw [here] at herror
      -- The stage of the channel tells which messages are out of place.
      cases h.staged channel slot here with
      | retired profile => contradiction
      | silent =>
          cases message with
          | auth token =>
              obtain rfl := Except.error.inj herror
              exact .unwanted token ⟨_, here, rfl⟩
          | hello => contradiction
          | createSession | attach =>
              obtain rfl := Except.error.inj herror
              exact .ungreeted _ here (.inl trivial)
          | request request =>
              obtain rfl := Except.error.inj herror
              exact .ungreeted _ here (.inr ⟨request, rfl⟩)
      | greeted profile =>
          cases message with
          | auth token =>
              obtain rfl := Except.error.inj herror
              exact .unwanted token ⟨_, here, rfl⟩
          | hello other =>
              obtain rfl := Except.error.inj herror
              exact .greetedAgain other _ here rfl rfl
          | createSession => contradiction
          | attach sessionId responseCursor =>
              simp only [Bool.false_eq_true, if_false, attach, greeted] at herror
              split at herror
              · contradiction
              · split at herror <;> contradiction
          | request request =>
              obtain rfl := Except.error.inj herror
              exact .unbound request profile here
      | bound name s found hchannel =>
          cases message with
          | auth token =>
              obtain rfl := Except.error.inj herror
              exact .unwanted token ⟨_, here, rfl⟩
          | hello other =>
              obtain rfl := Except.error.inj herror
              exact .greetedAgain other _ here rfl rfl
          | createSession | attach =>
              obtain rfl := Except.error.inj herror
              refine .taken _ trivial ?_
              rw [sessionOf?_of_slot here]
              rfl
          | request request =>
              simp only [Bool.false_eq_true, if_false, Remote.request, bound, found] at herror
              split at herror <;> contradiction

/-- A call that fails has changed nothing, and a history comes to the same without its failures.  A
message fails for the reasons in `Refused` only, and a call about a session only if the session is
not there.  On a channel that is retired nothing fails and nothing happens. -/
theorem errors_change_nothing (stem : String) (calls : List Call) :
    let r := (Remote.new stem).run calls
    (∀ channel message error, (r.handle channel message).1 = .error error →
      (r.handle channel message).2 = r ∧ Refused r channel message error) ∧
    (∀ channel message error, Refused r channel message error →
      r.handle channel message = (.error error, r)) ∧
    (∀ sessionId payload error, (r.respond sessionId payload).1 = .error error →
      (r.respond sessionId payload).2 = r ∧ error = .unknownSession sessionId ∧
        r.session? sessionId = none) ∧
    (∀ sessionId error, (r.dropSession sessionId).1 = .error error →
      (r.dropSession sessionId).2 = r ∧ error = .unknownSession sessionId ∧
        r.session? sessionId = none) ∧
    (∀ channel message, Retired channel r → r.handle channel message = (.ok [], r)) ∧
    (Remote.new stem).run ((Remote.new stem).heeded calls) = r := by
  intro r
  have h : r.Sound := (Sound.new stem).run calls
  refine ⟨?_, fun _ _ _ => h.handle_refused, ?_, ?_, fun _ message hretired =>
    handle_retired hretired message, run_heeded calls _⟩
  · intro channel message error herror
    exact ⟨atomic_handle channel message r error herror, h.refused_of_error herror⟩
  · intro sessionId payload error herror
    refine ⟨atomic_respond sessionId payload r error herror, ?_⟩
    cases found : r.session? sessionId with
    | none =>
        rw [respond_absent found] at herror
        exact ⟨(Except.error.inj herror).symm, rfl⟩
    | some s =>
        rw [respond, found] at herror
        contradiction
  · intro sessionId error herror
    refine ⟨atomic_dropSession sessionId r error herror, ?_⟩
    cases found : r.session? sessionId with
    | none =>
        rw [dropSession_absent found] at herror
        exact ⟨(Except.error.inj herror).symm, rfl⟩
    | some s =>
        rw [dropSession_eq found] at herror
        contradiction

/-- A request that comes before a hello, a second hello and a second session on one channel, an
answer to nobody, and a session that leaves its channel with a response in its outbox. -/
def blunders : List Call :=
  [.openChannel, .handle 1 (.request ⟨1000, 0, .null⟩), .handle 1 (.hello ⟨"u", "g"⟩),
    .handle 1 (.hello ⟨"v", "g"⟩), .handle 1 .createSession, .handle 1 .createSession,
    .respond "s:1" .null, .respond "s:2" .null, .openChannel, .handle 2 (.hello ⟨"u", "g"⟩),
    .handle 2 (.attach "s:1" 0)]

theorem blunders_change_nothing :
    let r := (Remote.new "s").run blunders
    (Remote.new "s").heeded blunders =
      [.openChannel, .handle 1 (.hello ⟨"u", "g"⟩), .handle 1 .createSession,
        .respond "s:1" .null, .openChannel, .handle 2 (.hello ⟨"u", "g"⟩),
        .handle 2 (.attach "s:1" 0)] ∧
      (Remote.new "s").run ((Remote.new "s").heeded blunders) = r ∧
      r.handle 1 (.request ⟨1000, 1, .null⟩) = (.ok [], r) ∧
      r.handle 2 .createSession = (.error (.unexpectedMessage "CreateSession"), r) ∧
      (r.dropSession "s:2").1 = .error (.unknownSession "s:2") ∧ (r.dropSession "s:2").2 = r := by
  intro r
  have hretired : Retired 1 r := ⟨_, rfl, rfl⟩
  have hdrop : (r.dropSession "s:2").1 = .error (.unknownSession "s:2") := rfl
  obtain ⟨-, hrefused, -, hdropped, hignored, hrun⟩ := errors_change_nothing "s" blunders
  exact ⟨rfl, hrun, hignored 1 _ hretired, hrefused 2 _ _ (.taken .createSession trivial rfl),
    hdrop, (hdropped "s:2" _ hdrop).1⟩

end ResumableSession.Remote
