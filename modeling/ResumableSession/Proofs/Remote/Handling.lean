import ResumableSession.Proofs.Remote.Outcomes

/-!
What can come of a message from a client, when all channels have the same profile.

No channel is denied a session then, and `handle_handling` lists what is left of the outcomes.
`Greeted` is kept by all of them.
-/

namespace ResumableSession.Remote

structure Greeted (profile : Profile) (r : Remote) : Prop where
  channels : ∀ channel slot, r.channel? channel = some slot → slot.profile = some profile
  sessions : ∀ sessionId s, r.session? sessionId = some s → s.profile = profile

/-- The outcomes of a message on a channel.  A request is never passed over on a bound channel. -/
inductive Handling (profile : Profile) (channel : Nat) (r : Remote) :
    ClientMessage → Answer → Prop where
  | refused (message : ClientMessage) (error : RemoteError)
      (free : ∀ request, message = .request request → r.sessionOf? channel = none) :
      Handling profile channel r message (.error error, r)
  | ignored (message : ClientMessage)
      (free : ∀ request, message = .request request → r.sessionOf? channel = none) :
      Handling profile channel r message (.ok [], r)
  | created (slot : Channel) (here : r.channel? channel = some slot)
      (live : slot.retired = false) (free : r.sessionOf? channel = none) :
      Handling profile channel r .createSession
        (.ok [.send channel (.success r.nextName 1000 profile)], r.created channel profile)
  | unknown (sessionId : String) (responseCursor : Nat) (missing : r.session? sessionId = none) :
      Handling profile channel r (.attach sessionId responseCursor)
        (.ok [.send channel .failure], r)
  | resumed (sessionId : String) (responseCursor : Nat) (s : RemoteSession) (slot : Channel)
      (here : r.channel? channel = some slot) (live : slot.retired = false)
      (free : r.sessionOf? channel = none) (found : r.session? sessionId = some s) :
      Handling profile channel r (.attach sessionId responseCursor)
        (.ok (s.channel.toList.map .shutdown ++
            resumption channel sessionId (Remote.resumed channel responseCursor s)),
          r.moved channel sessionId responseCursor s)
  | accepted (sessionId : String) (request : Request) (s : RemoteSession)
      (bound : r.sessionOf? channel = some sessionId) (found : r.session? sessionId = some s)
      (next : request.id = s.requestCursor) :
      Handling profile channel r (.request request)
        (.ok [.deliver sessionId request.id request.payload],
          r.modifySession sessionId (accept (s.outbox.dropBelow request.responseCursor)))
  | repeated (sessionId : String) (request : Request) (s : RemoteSession)
      (bound : r.sessionOf? channel = some sessionId) (found : r.session? sessionId = some s)
      (other : request.id ≠ s.requestCursor) :
      Handling profile channel r (.request request)
        (.ok [], r.modifySession sessionId (release (s.outbox.dropBelow request.responseCursor)))

variable {r : Remote} {profile : Profile} {channel other : Nat} {sessionId name : String}
  {slot : Channel} {s : RemoteSession}

theorem Greeted.staged (h : r.Greeted profile) (hbound : r.Bound) : r.Staged := by
  intro channel slot hslot
  have hprofile := h.channels channel slot hslot
  obtain ⟨known, bound, retired⟩ := slot
  obtain rfl : known = some profile := hprofile
  cases retired with
  | true =>
      obtain rfl : bound = none := hbound.retired channel _ hslot rfl
      exact .retired profile
  | false =>
      cases bound with
      | none => exact .greeted profile
      | some sessionId =>
          obtain ⟨s, found, here⟩ :=
            channelOf?_eq_some.mp ((hbound.agree _ _).mp (sessionOf?_of_slot hslot))
          rw [← h.sessions sessionId s found]
          exact .bound sessionId s found here

theorem handle_handling (hbound : r.Bound) (hgreeted : r.Greeted profile) (channel : Nat)
    (message : ClientMessage) :
    Handling profile channel r message (r.handle channel message) := by
  have houtcome := handle_outcome hbound (hgreeted.staged hbound) channel message
  generalize r.handle channel message = answer at houtcome ⊢
  cases houtcome with
  | refused _ _ error _ free => exact .refused message error free
  | ignored _ _ _ here => exact .ignored message fun _ _ => sessionOf?_of_slot here
  | greeted _ _ here => exact nomatch hgreeted.channels channel _ here
  | created _ _ here =>
      obtain rfl := Option.some.inj (hgreeted.channels channel _ here)
      exact .created _ here rfl (sessionOf?_of_slot here)
  | denied _ _ sessionId responseCursor here foreign =>
      obtain rfl := Option.some.inj (hgreeted.channels channel _ here)
      refine .unknown sessionId responseCursor (Option.eq_none_iff_forall_ne_some.mpr ?_)
      exact fun s found => foreign s found (hgreeted.sessions sessionId s found)
  | resumed _ sessionId responseCursor s here found =>
      exact .resumed sessionId responseCursor s _ here rfl (sessionOf?_of_slot here) found
  | accepted _ sessionId request s here found next =>
      exact .accepted sessionId request s (sessionOf?_of_slot here) found next
  | repeated _ sessionId request s here found other =>
      exact .repeated sessionId request s (sessionOf?_of_slot here) found other

/-! ## New channels -/

def greet (profile : Profile) (r : Remote) : Remote :=
  (r.openChannel.2.handle r.openChannel.1 (.hello profile)).2

theorem greet_eq :
    r.greet profile = r.openChannel.2.modifyChannel (r.lastChannel + 1) fun slot =>
      { slot with profile := some profile } := by
  have hopen : r.openChannel.2.channel? r.openChannel.1 = some {} := by
    rw [channel?_openChannel]
    exact if_pos rfl
  unfold greet handle
  rw [hopen]
  rfl

theorem sessionOf?_greet (h : r.Bound) :
    (r.greet profile).sessionOf? other = r.sessionOf? other := by
  rw [← sessionOf?_openChannel h, greet_eq, sessionOf?, sessionOf?, channel?_modifyChannel]
  split
  · cases r.openChannel.2.channel? other <;> rfl
  · rfl

theorem session?_greet : (r.greet profile).session? name = r.session? name := by
  rw [greet_eq]
  rfl

theorem lastChannel_greet : (r.greet profile).lastChannel = r.lastChannel + 1 := by
  rw [greet_eq]
  rfl

theorem Bound.greet (h : r.Bound) : (r.greet profile).Bound := by
  rw [greet_eq]
  exact h.openChannel.modifyChannel fun _ => ⟨rfl, rfl⟩

theorem Greeted.greet (h : r.Greeted profile) : (r.greet profile).Greeted profile where
  channels other slot hslot := by
    rw [greet_eq, channel?_modifyChannel] at hslot
    split at hslot
    · obtain ⟨old, -, rfl⟩ := Option.map_eq_some_iff.mp hslot
      rfl
    · next hne =>
        rw [channel?_openChannel, if_neg hne] at hslot
        exact h.channels other slot hslot
  sessions name s hs := by
    rw [session?_greet] at hs
    exact h.sessions name s hs

/-! ## What all outcomes keep -/

theorem Greeted.created (h : r.Greeted profile) : (r.created channel profile).Greeted profile where
  channels other slot hslot := by
    change (Remote.bind channel r.nextName r).channel? other = some slot at hslot
    rw [channel?_bind] at hslot
    split at hslot
    · obtain ⟨old, hold, rfl⟩ := Option.map_eq_some_iff.mp hslot
      exact h.channels other old hold
    · exact h.channels other slot hslot
  sessions name s hs := by
    rw [session?_created] at hs
    split at hs
    · obtain rfl := Option.some.inj hs
      rfl
    · exact h.sessions name s hs

theorem Greeted.moved (h : r.Greeted profile) (hne : s.channel ≠ some channel)
    (hs : r.session? sessionId = some s) (responseCursor : Nat) :
    (r.moved channel sessionId responseCursor s).Greeted profile where
  channels other slot hslot := by
    rw [channel?_moved hne] at hslot
    split at hslot
    · obtain ⟨old, hold, rfl⟩ := Option.map_eq_some_iff.mp hslot
      exact h.channels other old hold
    · split at hslot
      · obtain ⟨old, hold, rfl⟩ := Option.map_eq_some_iff.mp hslot
        exact h.channels other old hold
      · exact h.channels other slot hslot
  sessions name t ht := by
    rw [session?_moved hs] at ht
    split at ht
    · obtain rfl := Option.some.inj ht
      exact h.sessions sessionId s hs
    · exact h.sessions name t ht

theorem Greeted.modifySession (h : r.Greeted profile) {change : RemoteSession → RemoteSession}
    (hkeep : ∀ s, (change s).profile = s.profile) :
    (r.modifySession sessionId change).Greeted profile where
  channels := h.channels
  sessions name s hs := by
    rw [session?_modifySession] at hs
    split at hs
    · obtain ⟨old, hold, rfl⟩ := Option.map_eq_some_iff.mp hs
      rw [hkeep]
      exact h.sessions name old hold
    · exact h.sessions name s hs

theorem Greeted.closeChannel (h : r.Greeted profile) (hbound : r.Bound) :
    (r.closeChannel channel).2.Greeted profile where
  channels other slot hslot := by
    rw [channel?_closeChannel] at hslot
    split at hslot
    · contradiction
    · exact h.channels other slot hslot
  sessions name s hs := by
    rw [session?_closeChannel hbound] at hs
    obtain ⟨old, hold, rfl⟩ := Option.map_eq_some_iff.mp hs
    have hkeep : (detach channel old).profile = old.profile := by
      unfold detach
      split <;> rfl
    exact hkeep.trans (h.sessions name old hold)

end ResumableSession.Remote
