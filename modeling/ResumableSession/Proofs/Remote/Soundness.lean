import ResumableSession.Proofs.Outbox.Consecutive
import ResumableSession.Proofs.Remote.Outcomes

/-!
What holds of the other side, whatever it is asked.

`Sound` is kept by every call.  The tables of channels and sessions agree, every channel is in
one of its stages, and every outbox holds the last responses of its session.  So a message never
leads to a session that is not there, nothing is sent on a channel that is retired, and a channel
is shut down only when its session leaves it.
-/

namespace ResumableSession.Remote

def run (calls : List Call) (r : Remote) : Remote :=
  calls.foldl (fun r call => (r.perform call).2) r

def Call.session? : Call → Option String
  | .handle _ (.attach sessionId _) | .respond sessionId _ | .dropSession sessionId =>
      some sessionId
  | .openChannel | .closeChannel _ | .handle _ _ => none

variable {r : Remote} {profile : Profile} {channel other : Nat} {sessionId name : String}
  {slot : Channel} {s : RemoteSession}

/-! ## Stages after a call -/

theorem Staged.openChannel (h : r.Staged) : r.openChannel.2.Staged := by
  intro other slot hslot
  rw [channel?_openChannel] at hslot
  split at hslot
  · obtain rfl := Option.some.inj hslot
    exact .silent
  · exact (h other slot hslot).keep fun _ s found here => ⟨s, found, here, rfl⟩

theorem Staged.closeChannel (h : r.Staged) (hbound : r.Bound) :
    (r.closeChannel channel).2.Staged := by
  intro other slot hslot
  rw [channel?_closeChannel] at hslot
  split at hslot
  · contradiction
  · next hne =>
      refine (h other slot hslot).keep fun sessionId s found here => ⟨s, ?_, here, rfl⟩
      have hstays : detach channel s = s := by
        rw [detach, here, if_neg (by simpa using hne)]
      rw [session?_closeChannel hbound, found, Option.map_some, hstays]

theorem Staged.modifySession (h : r.Staged) {change : RemoteSession → RemoteSession}
    (hkeep : ∀ s, (change s).channel = s.channel ∧ (change s).profile = s.profile) :
    (r.modifySession sessionId change).Staged := by
  intro other slot hslot
  refine (h other slot hslot).keep fun name s found here => ?_
  rw [session?_modifySession, found]
  split
  · exact ⟨change s, rfl, (hkeep s).1.trans here, (hkeep s).2⟩
  · exact ⟨s, rfl, here, rfl⟩

theorem Staged.hello (h : r.Staged) (here : r.channel? channel = some {}) (profile : Profile) :
    (r.modifyChannel channel fun slot => { slot with profile := some profile }).Staged := by
  intro other slot hslot
  rw [channel?_modifyChannel] at hslot
  split at hslot
  · next he =>
      rw [he, here] at hslot
      obtain rfl := Option.some.inj hslot
      exact .greeted profile
  · exact (h other slot hslot).keep fun _ s found here => ⟨s, found, here, rfl⟩

theorem Staged.created (h : r.Staged) (hbound : r.Bound)
    (here : r.channel? channel = some { profile := some profile }) :
    (r.created channel profile).Staged := by
  intro other slot hslot
  change (Remote.bind channel r.nextName r).channel? other = some slot at hslot
  rw [channel?_bind] at hslot
  split at hslot
  · next he =>
      rw [he, here] at hslot
      obtain rfl := Option.some.inj hslot
      rw [he]
      exact .bound r.nextName { profile, channel := some channel }
        (by rw [session?_created, if_pos rfl]) rfl
  · refine (h other slot hslot).keep fun sessionId s found here => ⟨s, ?_, here, rfl⟩
    have hold : sessionId ≠ r.nextName := by
      rintro rfl
      rw [hbound.session?_nextName] at found
      contradiction
    rw [session?_created, if_neg hold, found]

theorem Staged.left {after : Remote} (h : r.Staged) (hbound : r.Bound)
    (found : r.session? sessionId = some s) (hleft : s.channel = some other)
    (hslot : r.channel? other = some slot) : Stage after other (retire slot) := by
  -- The channel of a session was greeted, so it may be retired.
  have hof := (hbound.agree other sessionId).mpr ((channelOf?_of_session found).trans hleft)
  rw [sessionOf?_of_slot hslot] at hof
  cases h other slot hslot with
  | silent | greeted | retired => contradiction
  | bound name t => exact .retired t.profile

theorem Staged.elsewhere {after : Remote} (h : r.Staged) (found : r.session? sessionId = some s)
    (hstays : s.channel ≠ some other) (hslot : r.channel? other = some slot)
    (hsame : ∀ name, name ≠ sessionId → after.session? name = r.session? name) :
    Stage after other slot := by
  refine (h other slot hslot).keep fun name t ht hc => ⟨t, ?_, hc, rfl⟩
  have hname : name ≠ sessionId := by
    rintro rfl
    obtain rfl := Option.some.inj (found.symm.trans ht)
    exact hstays hc
  rw [hsame name hname, ht]

theorem Staged.moved (h : r.Staged) (hbound : r.Bound)
    (here : r.channel? channel = some { profile := some s.profile })
    (found : r.session? sessionId = some s) (responseCursor : Nat) :
    (r.moved channel sessionId responseCursor s).Staged := by
  intro other slot hslot
  rw [channel?_moved (hbound.channel_ne (sessionOf?_of_slot here) found)] at hslot
  split at hslot
  · next he =>
      rw [he, here] at hslot
      obtain rfl := Option.some.inj hslot
      rw [he]
      exact .bound sessionId (resumed channel responseCursor s)
        (by rw [session?_moved found, if_pos rfl]) rfl
  · split at hslot
    · next hleft =>
        obtain ⟨old, hold, rfl⟩ := Option.map_eq_some_iff.mp hslot
        exact h.left hbound found hleft hold
    · next hstays =>
        refine h.elsewhere found hstays hslot fun name hname => ?_
        rw [session?_moved found, if_neg hname]

theorem Staged.dropped (h : r.Staged) (hbound : r.Bound) (found : r.session? sessionId = some s) :
    (r.dropped sessionId s).Staged := by
  intro other slot hslot
  rw [channel?_dropped] at hslot
  split at hslot
  · next hleft =>
      obtain ⟨old, hold, rfl⟩ := Option.map_eq_some_iff.mp hslot
      exact h.left hbound found hleft hold
  · next hstays =>
      refine h.elsewhere found hstays hslot fun name hname => ?_
      rw [session?_dropped, if_neg hname]

/-! ## Soundness -/

/-- An outbox that is empty, or holds consecutive responses up to the last one. -/
def Recent (s : RemoteSession) : Prop :=
  ∃ first, Consecutive first s.nextResponseId s.outbox.entries

structure Sound (r : Remote) : Prop extends Bound r where
  staged : r.Staged
  recent : ∀ sessionId s, r.session? sessionId = some s → Recent s

theorem Recent.dropBelow {t : RemoteSession} {threshold : Nat} (h : Recent s)
    (hnext : t.nextResponseId = s.nextResponseId)
    (houtbox : t.outbox = s.outbox.dropBelow threshold) : Recent t := by
  obtain ⟨first, hentries⟩ := h
  rw [Recent, hnext, houtbox]
  exact hentries.exists_dropBelow threshold

theorem Recent.push {t : RemoteSession} {response : Response} (h : Recent s)
    (hid : response.id = s.nextResponseId) (hnext : t.nextResponseId = s.nextResponseId + 1)
    (houtbox : t.outbox = s.outbox.push response) : Recent t := by
  obtain ⟨first, hentries⟩ := h
  rw [Recent, hnext, houtbox]
  exact ⟨first, hentries.push hid⟩

theorem Sound.new (stem : String) : (Remote.new stem).Sound where
  toBound := .new stem
  staged _ _ := nofun
  recent _ _ := nofun

theorem Sound.recent_update (h : r.Sound) {after : Remote} {t : RemoteSession}
    (hafter : ∀ name, after.session? name = if name = sessionId then some t else r.session? name)
    (ht : Recent t) :
    ∀ name u, after.session? name = some u → Recent u := by
  intro name u hu
  rw [hafter] at hu
  split at hu
  · obtain rfl := Option.some.inj hu
    exact ht
  · exact h.recent name u hu

theorem Sound.perform (h : r.Sound) (call : Call) : (r.perform call).2.Sound := by
  have houtcome := perform_outcome h.toBound h.staged call
  generalize r.perform call = answer at houtcome
  cases houtcome with
  | refused | ignored | denied | unheard | absent => exact h
  | opened =>
      exact { toBound := h.toBound.openChannel, staged := h.staged.openChannel, recent := h.recent }
  | closed channel =>
      refine {
        toBound := h.toBound.closeChannel
        staged := h.staged.closeChannel h.toBound
        recent := fun name s hs => ?_ }
      rw [session?_closeChannel h.toBound] at hs
      obtain ⟨old, hold, rfl⟩ := Option.map_eq_some_iff.mp hs
      have hrecent := h.recent name old hold
      unfold detach
      split
      · exact hrecent
      · exact hrecent
  | greeted channel profile here =>
      exact {
        toBound := h.toBound.modifyChannel fun _ => ⟨rfl, rfl⟩
        staged := h.staged.hello here profile
        recent := h.recent }
  | created channel profile here =>
      exact {
        toBound := h.toBound.created here rfl (sessionOf?_of_slot here)
        staged := h.staged.created h.toBound here
        recent := h.recent_update (fun _ => session?_created) ⟨0, rfl⟩ }
  | resumed channel sessionId responseCursor s here found =>
      have hrecent := h.recent sessionId s found
      exact {
        toBound := h.toBound.moved here rfl (sessionOf?_of_slot here) found responseCursor
        staged := h.staged.moved h.toBound here found responseCursor
        recent := h.recent_update (fun _ => session?_moved found _) (hrecent.dropBelow rfl rfl) }
  | accepted channel sessionId request s here found =>
      have hrecent := h.recent sessionId s found
      exact {
        toBound := h.toBound.modifySession fun _ => rfl
        staged := h.staged.modifySession fun _ => ⟨rfl, rfl⟩
        recent := h.recent_update (fun _ => session?_modifySession_of_session found _)
          (hrecent.dropBelow rfl rfl) }
  | repeated channel sessionId request s here found =>
      have hrecent := h.recent sessionId s found
      exact {
        toBound := h.toBound.modifySession fun _ => rfl
        staged := h.staged.modifySession fun _ => ⟨rfl, rfl⟩
        recent := h.recent_update (fun _ => session?_modifySession_of_session found _)
          (hrecent.dropBelow rfl rfl) }
  | responded sessionId payload s response found numbered =>
      have hrecent := h.recent sessionId s found
      have hid : response.id = s.nextResponseId := by rw [numbered]
      exact {
        toBound := h.toBound.modifySession fun _ => rfl
        staged := h.staged.modifySession fun _ => ⟨rfl, rfl⟩
        recent := h.recent_update (fun _ => session?_modifySession_of_session found _)
          (hrecent.push hid rfl rfl) }
  | dropped sessionId s found =>
      refine {
        toBound := h.toBound.dropped found
        staged := h.staged.dropped h.toBound found
        recent := fun name t ht => ?_ }
      rw [session?_dropped] at ht
      split at ht
      · contradiction
      · exact h.recent name t ht

theorem Sound.run (h : r.Sound) (calls : List Call) : (r.run calls).Sound := by
  induction calls generalizing r with
  | nil => exact h
  | cons call rest ih => exact ih (h.perform call)

/-! ## What the answers say -/

/-- A channel that is open and counts. -/
def Live (channel : Nat) (r : Remote) : Prop :=
  ∃ slot, r.channel? channel = some slot ∧ slot.retired = false

def Retired (channel : Nat) (r : Remote) : Prop :=
  ∃ slot, r.channel? channel = some slot ∧ slot.retired = true

theorem Sound.bound_slot (h : r.Sound) (found : r.session? sessionId = some s)
    (here : s.channel = some channel) :
    r.channel? channel = some { profile := some s.profile, sessionId := some sessionId } := by
  have hof := (h.agree channel sessionId).mpr ((channelOf?_of_session found).trans here)
  obtain ⟨slot, hslot, hid⟩ := Option.bind_eq_some_iff.mp hof
  rw [hslot]
  cases h.staged channel slot hslot with
  | silent | greeted | retired => contradiction
  | bound name t ht =>
      obtain rfl := Option.some.inj hid
      obtain rfl := Option.some.inj (found.symm.trans ht)
      rfl

theorem Sound.handle_known (h : r.Sound) (channel : Nat) (message : ClientMessage)
    (sessionId : String) : (r.handle channel message).1 ≠ .error (.unknownSession sessionId) := by
  have houtcome := handle_outcome h.toBound h.staged channel message
  generalize r.handle channel message = answer at houtcome
  cases houtcome with
  | refused _ _ error known => exact fun he => known sessionId (Except.error.inj he)
  | _ => exact nofun

theorem mem_resumption {message : ServerMessage}
    (hmem : .send other message ∈ resumption channel sessionId s) : other = channel := by
  rcases List.mem_cons.mp hmem with he | hmem
  · exact (Action.send.inj he).1
  · obtain ⟨response, -, he⟩ := List.mem_map.mp hmem
    exact (Action.send.inj he).1.symm

theorem mem_shutdowns (hmem : .shutdown other ∈ s.channel.toList.map Action.shutdown) :
    s.channel = some other := by
  obtain ⟨old, hold, he⟩ := List.mem_map.mp hmem
  obtain rfl := Action.shutdown.inj he
  exact Option.mem_toList.mp hold

theorem Sound.sent_live (h : r.Sound) {call : Call} {actions : List Action}
    {message : ServerMessage} (hanswer : (r.perform call).1 = .ok actions)
    (hmem : .send channel message ∈ actions) : Live channel (r.perform call).2 := by
  have hafter := h.perform call
  have houtcome := perform_outcome h.toBound h.staged call
  generalize r.perform call = answer at hanswer hafter houtcome ⊢
  cases houtcome with
  | refused | unheard | absent => contradiction
  | opened | closed | ignored | greeted | repeated =>
      obtain rfl := Except.ok.inj hanswer
      contradiction
  | accepted | dropped =>
      obtain rfl := Except.ok.inj hanswer
      simp at hmem
  | created target profile here =>
      obtain rfl := Except.ok.inj hanswer
      obtain rfl := (Action.send.inj (List.mem_singleton.mp hmem)).1
      exact ⟨_, hafter.bound_slot (by rw [session?_created, if_pos rfl]) rfl, rfl⟩
  | denied target profile sessionId responseCursor here =>
      obtain rfl := Except.ok.inj hanswer
      obtain rfl := (Action.send.inj (List.mem_singleton.mp hmem)).1
      exact ⟨_, here, rfl⟩
  | resumed target sessionId responseCursor s here found =>
      obtain rfl := Except.ok.inj hanswer
      rcases List.mem_append.mp hmem with hmem | hmem
      · simp at hmem
      · obtain rfl := mem_resumption hmem
        exact ⟨_, hafter.bound_slot (by rw [session?_moved found, if_pos rfl]) rfl, rfl⟩
  | responded sessionId payload s response found =>
      obtain rfl := Except.ok.inj hanswer
      obtain ⟨target, htarget, he⟩ := List.mem_map.mp hmem
      obtain rfl := (Action.send.inj he).1
      exact ⟨_, h.bound_slot found (Option.mem_toList.mp htarget), rfl⟩

theorem Sound.shutdown_retired (h : r.Sound) {call : Call} {actions : List Action}
    (hanswer : (r.perform call).1 = .ok actions) (hmem : .shutdown channel ∈ actions) :
    ∃ sessionId, call.session? = some sessionId ∧ r.channelOf? sessionId = some channel ∧
      Retired channel (r.perform call).2 := by
  have houtcome := perform_outcome h.toBound h.staged call
  generalize r.perform call = answer at hanswer houtcome ⊢
  cases houtcome with
  | refused | unheard | absent => contradiction
  | opened | closed | ignored | greeted | repeated =>
      obtain rfl := Except.ok.inj hanswer
      contradiction
  | created | denied | accepted | responded =>
      obtain rfl := Except.ok.inj hanswer
      simp at hmem
  | resumed target sessionId responseCursor s here found =>
      obtain rfl := Except.ok.inj hanswer
      have hleft : s.channel = some channel := by
        rcases List.mem_append.mp hmem with hmem | hmem
        · exact mem_shutdowns hmem
        · simp [resumption] at hmem
      have hfree := h.channel_ne (sessionOf?_of_slot here) found
      have hne : channel ≠ target := fun he => hfree (he ▸ hleft)
      refine ⟨sessionId, rfl, (channelOf?_of_session found).trans hleft,
        retire ⟨some s.profile, some sessionId, false⟩, ?_, rfl⟩
      rw [channel?_moved hfree, if_neg hne, if_pos hleft, h.bound_slot found hleft]
      rfl
  | dropped sessionId s found =>
      obtain rfl := Except.ok.inj hanswer
      have hleft := mem_shutdowns hmem
      refine ⟨sessionId, rfl, (channelOf?_of_session found).trans hleft,
        retire ⟨some s.profile, some sessionId, false⟩, ?_, rfl⟩
      rw [channel?_dropped, if_pos hleft, h.bound_slot found hleft]
      rfl

/-- Whatever was asked so far, both tables say the same of a channel and its session, no message
finds its session missing, and actions name the channels that they are meant for. -/
theorem tables_agree (stem : String) (calls : List Call) :
    let r := (Remote.new stem).run calls
    (∀ sessionId channel,
      r.channelOf? sessionId = some channel ↔ r.sessionOf? channel = some sessionId) ∧
    (∀ sessionId s channel, r.session? sessionId = some s → s.channel = some channel →
      r.channel? channel = some ⟨some s.profile, some sessionId, false⟩) ∧
    (∀ channel slot, r.channel? channel = some slot → slot.retired = true →
      slot.sessionId = none) ∧
    (∀ sessionId s, r.session? sessionId = some s → Recent s) ∧
    (∀ channel message sessionId,
      (r.handle channel message).1 ≠ .error (.unknownSession sessionId)) ∧
    ∀ call actions, (r.perform call).1 = .ok actions →
      (∀ channel message, .send channel message ∈ actions → Live channel (r.perform call).2) ∧
      ∀ channel, .shutdown channel ∈ actions →
        ∃ sessionId, call.session? = some sessionId ∧ r.channelOf? sessionId = some channel ∧
          Retired channel (r.perform call).2 := by
  intro r
  have h : r.Sound := (Sound.new stem).run calls
  refine ⟨fun sessionId channel => (h.agree channel sessionId).symm, ?_, h.retired, h.recent,
    h.handle_known, ?_⟩
  · exact fun sessionId s channel => h.bound_slot
  · intro call actions hanswer
    exact ⟨fun channel message => h.sent_live hanswer, fun channel => h.shutdown_retired hanswer⟩

def oneMove : List Call :=
  [.openChannel, .handle 1 (.hello ⟨"u", "g"⟩), .handle 1 .createSession, .respond "s:1" .null,
    .openChannel, .handle 2 (.hello ⟨"u", "g"⟩)]

theorem oneMove_agrees :
    let r := (Remote.new "s").run oneMove
    let answer := r.perform (.handle 2 (.attach "s:1" 0))
    answer.1 = .ok [.shutdown 1, .send 2 (.success "s:1" 1000 ⟨"u", "g"⟩),
        .send 2 (.response ⟨0, 1000, .null⟩)] ∧
      Live 2 answer.2 ∧ Retired 1 answer.2 := by
  intro r answer
  have hanswer : answer.1 = .ok [.shutdown 1, .send 2 (.success "s:1" 1000 ⟨"u", "g"⟩),
      .send 2 (.response ⟨0, 1000, .null⟩)] := by
    rfl
  obtain ⟨-, -, -, -, -, h⟩ := tables_agree "s" oneMove
  obtain ⟨hsent, hshutdown⟩ := h (.handle 2 (.attach "s:1" 0)) _ hanswer
  obtain ⟨-, -, -, hretired⟩ := hshutdown 1 (by simp)
  exact ⟨hanswer, hsent 2 (.success "s:1" 1000 ⟨"u", "g"⟩) (by simp), hretired⟩

end ResumableSession.Remote
