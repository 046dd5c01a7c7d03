import ResumableSession.Proofs.Remote.Binding

/-!
What can come of a call on the other side.

A channel goes through at most four stages: it is opened, it says hello, it is bound to a
session, and it is retired.  `perform_outcome` lists what a call comes to, each time with the
stage that a channel has to be in, with the actions and with the state that it leads to.  The
look-ups say what these states are, and `Bound` is kept by all of them.
-/

namespace ResumableSession.Remote

/-! ## Calls -/

inductive Call where
  | openChannel
  | closeChannel (channel : Nat)
  | handle (channel : Nat) (message : ClientMessage)
  | respond (sessionId : String) (payload : Json)
  | dropSession (sessionId : String)
  deriving DecidableEq, Repr

def perform (call : Call) (r : Remote) : Answer :=
  match call with
  | .openChannel => (.ok [], r.openChannel.2)
  | .closeChannel channel => (.ok [], (r.closeChannel channel).2)
  | .handle channel message => r.handle channel message
  | .respond sessionId payload => r.respond sessionId payload
  | .dropSession sessionId => r.dropSession sessionId

/-! ## States after a call -/

def created (channel : Nat) (profile : Profile) (r : Remote) : Remote :=
  bind channel r.nextName
    { r with
      serial := r.serial + 1
      sessions := Table.insert r.nextName { profile, channel := some channel } r.sessions }

def resumed (channel responseCursor : Nat) (s : RemoteSession) : RemoteSession :=
  { s with channel := some channel, outbox := s.outbox.dropBelow responseCursor }

def moved (channel : Nat) (sessionId : String) (responseCursor : Nat) (s : RemoteSession)
    (r : Remote) : Remote :=
  let resumed := r.modifySession sessionId fun _ => resumed channel responseCursor s
  bind channel sessionId (s.channel.elim resumed fun old => resumed.modifyChannel old retire)

def release (outbox : Outbox Response) (s : RemoteSession) : RemoteSession :=
  { s with outbox }

def accept (outbox : Outbox Response) (s : RemoteSession) : RemoteSession :=
  { s with outbox, requestCursor := s.requestCursor + 1 }

def dropped (sessionId : String) (s : RemoteSession) (r : Remote) : Remote :=
  let dropped := { r with sessions := Table.erase sessionId r.sessions }
  s.channel.elim dropped fun channel => dropped.modifyChannel channel retire

variable {r : Remote} {profile : Profile} {channel other : Nat} {sessionId name : String}
  {slot : Channel} {s : RemoteSession}

/-! ## Look-ups after a call -/

theorem session?_created :
    (r.created channel profile).session? name =
      if name = r.nextName then some { profile, channel := some channel } else r.session? name :=
  Table.find?_insert ..

theorem channelOf?_created :
    (r.created channel profile).channelOf? name =
      if name = r.nextName then some channel else r.channelOf? name := by
  rw [channelOf?, session?_created]
  split <;> rfl

theorem sessionOf?_created (hslot : r.channel? channel = some slot) :
    (r.created channel profile).sessionOf? other =
      if other = channel then some r.nextName else r.sessionOf? other :=
  sessionOf?_bind hslot

theorem channel?_bind :
    (r.bind channel sessionId).channel? other =
      if other = channel then (r.channel? other).map fun slot =>
        { slot with sessionId := some sessionId }
      else r.channel? other :=
  channel?_modifyChannel _

theorem session?_moved (hs : r.session? sessionId = some s) (responseCursor : Nat) :
    (r.moved channel sessionId responseCursor s).session? name =
      if name = sessionId then some (resumed channel responseCursor s) else r.session? name := by
  have same : (r.moved channel sessionId responseCursor s).session? name =
      (r.modifySession sessionId fun _ => resumed channel responseCursor s).session? name := by
    unfold moved
    cases s.channel <;> rfl
  rw [same, session?_modifySession_of_session hs]

theorem channelOf?_moved (hs : r.session? sessionId = some s) (responseCursor : Nat) :
    (r.moved channel sessionId responseCursor s).channelOf? name =
      if name = sessionId then some channel else r.channelOf? name := by
  rw [channelOf?, session?_moved hs]
  split <;> rfl

theorem channel?_moved (hfree : s.channel ≠ some channel) (responseCursor : Nat) :
    (r.moved channel sessionId responseCursor s).channel? other =
      if other = channel then (r.channel? other).map fun slot =>
        { slot with sessionId := some sessionId }
      else if s.channel = some other then (r.channel? other).map retire
      else r.channel? other := by
  unfold moved
  rw [channel?_bind]
  cases hc : s.channel with
  | none => rfl
  | some old =>
      rw [hc] at hfree
      simp only [Option.elim_some, channel?_modifyChannel, channel?_modifySession]
      grind

theorem sessionOf?_moved (hfree : s.channel ≠ some channel)
    (hslot : r.channel? channel = some slot) (responseCursor : Nat) :
    (r.moved channel sessionId responseCursor s).sessionOf? other =
      if other = channel then some sessionId
      else if s.channel = some other then none
      else r.sessionOf? other := by
  rw [sessionOf?, channel?_moved hfree]
  split
  · next he => rw [he, hslot]; rfl
  · split
    · cases r.channel? other <;> rfl
    · rfl

theorem lastChannel_moved (responseCursor : Nat) :
    (r.moved channel sessionId responseCursor s).lastChannel = r.lastChannel := by
  unfold moved
  cases s.channel <;> rfl

theorem Bound.channel_ne (hbound : r.Bound) (hfree : r.sessionOf? channel = none)
    (hs : r.session? sessionId = some s) : s.channel ≠ some channel := by
  intro hc
  rw [← channelOf?_of_session hs, ← hbound.agree, hfree] at hc
  contradiction

theorem session?_dropped :
    (r.dropped sessionId s).session? name =
      if name = sessionId then none else r.session? name := by
  have same : (r.dropped sessionId s).session? name =
      Table.find? name (Table.erase sessionId r.sessions) := by
    unfold dropped
    cases s.channel <;> rfl
  rw [same]
  exact Table.find?_erase ..

theorem channelOf?_dropped :
    (r.dropped sessionId s).channelOf? name =
      if name = sessionId then none else r.channelOf? name := by
  rw [channelOf?, session?_dropped]
  split <;> rfl

theorem channel?_dropped :
    (r.dropped sessionId s).channel? other =
      if s.channel = some other then (r.channel? other).map retire else r.channel? other := by
  unfold dropped
  cases hc : s.channel with
  | none => rfl
  | some old =>
      rw [Option.elim_some, channel?_modifyChannel]
      simp only [Option.some.injEq, eq_comm]
      rfl

theorem sessionOf?_dropped :
    (r.dropped sessionId s).sessionOf? other =
      if s.channel = some other then none else r.sessionOf? other := by
  rw [sessionOf?, channel?_dropped]
  split
  · cases r.channel? other <;> rfl
  · rfl

theorem lastChannel_dropped : (r.dropped sessionId s).lastChannel = r.lastChannel := by
  unfold dropped
  cases s.channel <;> rfl

/-! ## Agreement after a call -/

theorem Bound.created (h : r.Bound) (hslot : r.channel? channel = some slot)
    (hlive : slot.retired = false) (hfree : r.sessionOf? channel = none) :
    (r.created channel profile).Bound where
  agree other name := by
    rw [sessionOf?_created hslot, channelOf?_created]
    have := h.agree other name
    have hnew : r.channelOf? r.nextName = none := by rw [channelOf?, h.session?_nextName]; rfl
    grind
  retired other old hold := by
    change (Remote.bind channel r.nextName r).channel? other = some old at hold
    rw [channel?_bind] at hold
    split at hold
    · next he =>
        rw [he, hslot] at hold
        obtain rfl := Option.some.inj hold
        intro hretired
        rw [hlive] at hretired
        contradiction
    · exact h.retired other old hold
  opened other old hold := by
    change (Remote.bind channel r.nextName r).channel? other = some old at hold
    rw [channel?_bind] at hold
    split at hold
    · next he => exact he ▸ h.opened channel slot hslot
    · exact h.opened other old hold
  named name s hs := by
    rw [session?_created] at hs
    split at hs
    · next he => exact ⟨r.serial + 1, Nat.le_refl _, he⟩
    · obtain ⟨serial, hle, hname⟩ := h.named name s hs
      exact ⟨serial, Nat.le_succ_of_le hle, hname⟩

theorem Bound.moved (h : r.Bound) (hslot : r.channel? channel = some slot)
    (hlive : slot.retired = false) (hfree : r.sessionOf? channel = none)
    (hs : r.session? sessionId = some s) (responseCursor : Nat) :
    (r.moved channel sessionId responseCursor s).Bound where
  agree other name := by
    rw [sessionOf?_moved (h.channel_ne hfree hs) hslot, channelOf?_moved hs]
    have := h.agree other name
    have := h.agree other sessionId
    have := channelOf?_of_session hs
    grind
  retired other old hold := by
    rw [channel?_moved (h.channel_ne hfree hs)] at hold
    split at hold
    · next he =>
        rw [he, hslot] at hold
        obtain rfl := Option.some.inj hold
        intro hretired
        rw [hlive] at hretired
        contradiction
    · split at hold
      · obtain ⟨older, -, rfl⟩ := Option.map_eq_some_iff.mp hold
        exact fun _ => rfl
      · exact h.retired other old hold
  opened other old hold := by
    rw [lastChannel_moved]
    rw [channel?_moved (h.channel_ne hfree hs)] at hold
    split at hold
    · next he => exact he ▸ h.opened channel slot hslot
    · split at hold
      · obtain ⟨older, holder, -⟩ := Option.map_eq_some_iff.mp hold
        exact h.opened other older holder
      · exact h.opened other old hold
  named name old hold := by
    have same : (r.moved channel sessionId responseCursor s).serial = r.serial ∧
        (r.moved channel sessionId responseCursor s).stem = r.stem := by
      unfold Remote.moved
      cases s.channel <;> exact ⟨rfl, rfl⟩
    rw [same.1, same.2]
    rw [session?_moved hs] at hold
    split at hold
    · next he => exact he ▸ h.named sessionId s hs
    · exact h.named name old hold

theorem Bound.dropped (h : r.Bound) (hs : r.session? sessionId = some s) :
    (r.dropped sessionId s).Bound where
  agree other name := by
    rw [sessionOf?_dropped, channelOf?_dropped]
    have := h.agree other name
    have := h.agree other sessionId
    have := channelOf?_of_session hs
    grind
  retired other old hold := by
    rw [channel?_dropped] at hold
    split at hold
    · obtain ⟨older, -, rfl⟩ := Option.map_eq_some_iff.mp hold
      exact fun _ => rfl
    · exact h.retired other old hold
  opened other old hold := by
    rw [lastChannel_dropped]
    rw [channel?_dropped] at hold
    split at hold
    · obtain ⟨older, holder, -⟩ := Option.map_eq_some_iff.mp hold
      exact h.opened other older holder
    · exact h.opened other old hold
  named name old hold := by
    have same : (r.dropped sessionId s).serial = r.serial ∧
        (r.dropped sessionId s).stem = r.stem := by
      unfold Remote.dropped
      cases s.channel <;> exact ⟨rfl, rfl⟩
    rw [same.1, same.2]
    rw [session?_dropped] at hold
    split at hold
    · contradiction
    · exact h.named name old hold

/-! ## Stages of a channel -/

inductive Stage (r : Remote) (channel : Nat) : Channel → Prop where
  | silent : Stage r channel {}
  | greeted (profile : Profile) : Stage r channel { profile := some profile }
  | bound (sessionId : String) (s : RemoteSession) (found : r.session? sessionId = some s)
      (here : s.channel = some channel) :
      Stage r channel { profile := some s.profile, sessionId := some sessionId }
  | retired (profile : Profile) : Stage r channel { profile := some profile, retired := true }

def Staged (r : Remote) : Prop :=
  ∀ channel slot, r.channel? channel = some slot → Stage r channel slot

theorem Stage.keep {after : Remote} (h : Stage r channel slot)
    (hkeep : ∀ sessionId s, r.session? sessionId = some s → s.channel = some channel →
      ∃ t, after.session? sessionId = some t ∧ t.channel = some channel ∧
        t.profile = s.profile) : Stage after channel slot := by
  cases h with
  | silent => exact .silent
  | greeted profile => exact .greeted profile
  | retired profile => exact .retired profile
  | bound sessionId s found here =>
      obtain ⟨t, ht, hchannel, hprofile⟩ := hkeep sessionId s found here
      rw [← hprofile]
      exact .bound sessionId t ht hchannel

/-! ## Outcomes -/

inductive Outcome (r : Remote) : Call → Answer → Prop where
  | opened : Outcome r .openChannel (.ok [], r.openChannel.2)
  | closed (channel : Nat) :
      Outcome r (.closeChannel channel) (.ok [], (r.closeChannel channel).2)
  /-- A request is refused only on a channel without a session. -/
  | refused (channel : Nat) (message : ClientMessage) (error : RemoteError)
      (known : ∀ sessionId, error ≠ .unknownSession sessionId)
      (free : ∀ request, message = .request request → r.sessionOf? channel = none) :
      Outcome r (.handle channel message) (.error error, r)
  | ignored (channel : Nat) (message : ClientMessage) (profile : Profile)
      (here : r.channel? channel = some { profile := some profile, retired := true }) :
      Outcome r (.handle channel message) (.ok [], r)
  | greeted (channel : Nat) (profile : Profile) (here : r.channel? channel = some {}) :
      Outcome r (.handle channel (.hello profile))
        (.ok [], r.modifyChannel channel fun slot => { slot with profile := some profile })
  | created (channel : Nat) (profile : Profile)
      (here : r.channel? channel = some { profile := some profile }) :
      Outcome r (.handle channel .createSession)
        (.ok [.send channel (.success r.nextName 1000 profile)], r.created channel profile)
  | denied (channel : Nat) (profile : Profile) (sessionId : String) (responseCursor : Nat)
      (here : r.channel? channel = some { profile := some profile })
      (foreign : ∀ s, r.session? sessionId = some s → s.profile ≠ profile) :
      Outcome r (.handle channel (.attach sessionId responseCursor))
        (.ok [.send channel .failure], r)
  | resumed (channel : Nat) (sessionId : String) (responseCursor : Nat) (s : RemoteSession)
      (here : r.channel? channel = some { profile := some s.profile })
      (found : r.session? sessionId = some s) :
      Outcome r (.handle channel (.attach sessionId responseCursor))
        (.ok (s.channel.toList.map .shutdown ++
            resumption channel sessionId (Remote.resumed channel responseCursor s)),
          r.moved channel sessionId responseCursor s)
  | accepted (channel : Nat) (sessionId : String) (request : Request) (s : RemoteSession)
      (here : r.channel? channel =
        some { profile := some s.profile, sessionId := some sessionId })
      (found : r.session? sessionId = some s) (next : request.id = s.requestCursor) :
      Outcome r (.handle channel (.request request))
        (.ok [.deliver sessionId request.id request.payload],
          r.modifySession sessionId (accept (s.outbox.dropBelow request.responseCursor)))
  | repeated (channel : Nat) (sessionId : String) (request : Request) (s : RemoteSession)
      (here : r.channel? channel =
        some { profile := some s.profile, sessionId := some sessionId })
      (found : r.session? sessionId = some s) (other : request.id ≠ s.requestCursor) :
      Outcome r (.handle channel (.request request))
        (.ok [], r.modifySession sessionId (release (s.outbox.dropBelow request.responseCursor)))
  | responded (sessionId : String) (payload : Json) (s : RemoteSession) (response : Response)
      (found : r.session? sessionId = some s)
      (numbered : response = ⟨s.nextResponseId, s.requestCursor, payload⟩) :
      Outcome r (.respond sessionId payload)
        (.ok (s.channel.toList.map fun channel => .send channel (.response response)),
          r.modifySession sessionId fun s =>
            { s with nextResponseId := s.nextResponseId + 1, outbox := s.outbox.push response })
  | unheard (sessionId : String) (payload : Json) (missing : r.session? sessionId = none) :
      Outcome r (.respond sessionId payload) (.error (.unknownSession sessionId), r)
  | dropped (sessionId : String) (s : RemoteSession) (found : r.session? sessionId = some s) :
      Outcome r (.dropSession sessionId)
        (.ok (s.channel.toList.map .shutdown), r.dropped sessionId s)
  | absent (sessionId : String) (missing : r.session? sessionId = none) :
      Outcome r (.dropSession sessionId) (.error (.unknownSession sessionId), r)

theorem previous?_eq (hbound : r.Bound) (hfree : r.sessionOf? channel = none)
    (hs : r.session? sessionId = some s) : previous? channel s = s.channel := by
  have hne := hbound.channel_ne hfree hs
  unfold previous?
  cases hc : s.channel with
  | none => rfl
  | some old =>
      have : old ≠ channel := by
        rintro rfl
        exact hne hc
      simp [this]

theorem attach_eq (hbound : r.Bound) (hfree : r.sessionOf? channel = none)
    (hs : r.session? sessionId = some s) (responseCursor : Nat) :
    r.attach channel { profile := some s.profile } sessionId responseCursor =
      (.ok (s.channel.toList.map .shutdown ++
          resumption channel sessionId (resumed channel responseCursor s)),
        r.moved channel sessionId responseCursor s) := by
  have hown : (some s).filter (·.profile = s.profile) = some s :=
    Option.filter_some_pos (decide_eq_true rfl)
  have hprevious := previous?_eq hbound hfree hs
  cases hc : s.channel <;> simp [attach, greeted, hs, hown, hprevious, hc, moved, resumed]

theorem attach_outcome (hbound : r.Bound)
    (here : r.channel? channel = some { profile := some profile }) (responseCursor : Nat) :
    Outcome r (.handle channel (.attach sessionId responseCursor))
      (r.attach channel { profile := some profile } sessionId responseCursor) := by
  by_cases hown : ∃ s, r.session? sessionId = some s ∧ s.profile = profile
  · obtain ⟨s, hs, rfl⟩ := hown
    rw [attach_eq hbound (sessionOf?_of_slot here) hs]
    exact .resumed channel sessionId responseCursor s here hs
  · have hforeign : (r.session? sessionId).filter (·.profile = profile) = none := by
      simpa [Option.filter_eq_none_iff] using hown
    simp only [attach, greeted, hforeign]
    exact .denied channel profile sessionId responseCursor here fun s hs he => hown ⟨s, hs, he⟩

theorem dropSession_eq (hs : r.session? sessionId = some s) :
    r.dropSession sessionId = (.ok (s.channel.toList.map .shutdown), r.dropped sessionId s) := by
  cases hc : s.channel <;> simp [dropSession, hs, hc, dropped]

theorem handle_outcome (hbound : r.Bound) (hstaged : r.Staged) (channel : Nat)
    (message : ClientMessage) :
    Outcome r (.handle channel message) (r.handle channel message) := by
  unfold handle
  cases here : r.channel? channel with
  | none => exact .refused channel message _ (by simp) fun _ _ => by rw [sessionOf?, here]; rfl
  | some slot =>
      have hof := sessionOf?_of_slot here
      -- What comes of the message depends on the stage of the channel first.
      cases hstaged channel slot here with
      | retired profile => exact .ignored channel message profile here
      | silent =>
          cases message with
          | hello profile => exact .greeted channel profile here
          | auth | createSession | attach | request =>
              exact .refused channel _ _ (by simp) fun _ _ => hof
      | greeted profile =>
          cases message with
          | createSession => exact .created channel profile here
          | attach sessionId responseCursor => exact attach_outcome hbound here responseCursor
          | auth | hello | request => exact .refused channel _ _ (by simp) fun _ _ => hof
      | bound sessionId s found _ =>
          cases message with
          | request request =>
              simp only [Remote.request, bound, found]
              by_cases hnext : request.id = s.requestCursor
              · rw [if_pos hnext]
                exact .accepted channel sessionId request s here found hnext
              · rw [if_neg hnext]
                exact .repeated channel sessionId request s here found hnext
          | auth | hello | createSession | attach =>
              exact .refused channel _ _ (by simp) (by simp)

theorem perform_outcome (hbound : r.Bound) (hstaged : r.Staged) (call : Call) :
    Outcome r call (r.perform call) := by
  cases call with
  | openChannel => exact .opened
  | closeChannel channel => exact .closed channel
  | handle channel message => exact handle_outcome hbound hstaged channel message
  | respond sessionId payload =>
      simp only [perform, respond]
      cases hs : r.session? sessionId with
      | none => exact .unheard sessionId payload hs
      | some s => exact .responded sessionId payload s _ hs rfl
  | dropSession sessionId =>
      rw [perform]
      cases hs : r.session? sessionId with
      | none =>
          simp only [dropSession, hs]
          exact .absent sessionId hs
      | some s =>
          rw [dropSession_eq hs]
          exact .dropped sessionId s hs

end ResumableSession.Remote
