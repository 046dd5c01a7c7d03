import ResumableSession.Proofs.Network.Invariant

/-!
Changes on the other side, and what they mean to the client.

The client does not notice that something happens to other channels, or that its session comes
into a later state, as long as the numbers of what is under way still fit.
-/

namespace ResumableSession.Network

variable {profile : Profile} {n m : Network} {channel : Nat} {sessionId : String}
  {s t : RemoteSession}

/-! ## Sessions and phases -/

theorem Sent.keep (h : Sent n) (hclient : m.client = n.client)
    (hrequested : m.requested = n.requested) (haccepted : m.accepted = n.accepted) : Sent m := by
  obtain ⟨nextId, outbox, genuine, accepted⟩ := h
  constructor
  · rwa [hclient, hrequested]
  · rwa [hclient, haccepted]
  · rwa [hclient, hrequested]
  · rwa [haccepted, hrequested]

structure Updated (n m : Network) (sessionId : String) (t : RemoteSession) : Prop where
  responded : m.responded = n.responded
  session? (name : String) : m.remote.session? name =
    if name = sessionId then some t else n.remote.session? name

theorem Updated.kept (h : Updated n m sessionId t)
    (hkept : ∀ name s, n.remote.session? name = some s → Kept (n.responsesTo name) s)
    (ht : Kept (n.responsesTo sessionId) t) (name : String) (s : RemoteSession)
    (hs : m.remote.session? name = some s) : Kept (m.responsesTo name) s := by
  have hresponses : m.responsesTo name = n.responsesTo name := by
    simp only [responsesTo, h.responded]
  rw [h.session?] at hs
  rw [hresponses]
  split at hs
  · next he =>
      obtain rfl := Option.some.inj hs
      rwa [he]
  · exact hkept name s hs

theorem Updated.known (h : Updated n m sessionId t)
    (hknown : ∀ entry ∈ n.responded, (n.remote.session? entry.1).isSome)
    (entry : String × Json) (hmem : entry ∈ m.responded) :
    (m.remote.session? entry.1).isSome := by
  rw [h.responded] at hmem
  rw [h.session?]
  split
  · rfl
  · exact hknown entry hmem

/-- A session has come from one state into another.  It goes on where it was unless there are
requests on its channel. -/
structure Carried (n m : Network) (sessionId : String) (s t : RemoteSession) : Prop where
  shared : Shared m sessionId t
  count : t.nextResponseId = s.nextResponseId
  cursor : s.requestCursor ≤ t.requestCursor
  same : (∀ other, n.remote.sessionOf? other = some sessionId → n.uplink other = []) →
    t.requestCursor = s.requestCursor

theorem Arriving.carried {responses : List Response}
    (h : Arriving n channel sessionId s responses) (hclient : m.client = n.client)
    (hresponded : m.responded = n.responded) (hcarried : Carried n m sessionId s t)
    (hbound : ∀ name, m.remote.sessionOf? channel = some name →
      n.remote.sessionOf? channel = some name) : Arriving m channel sessionId t responses where
  consecutive := by
    obtain ⟨stop, hstop, hconsecutive, hlast⟩ := h.consecutive
    rw [hclient, hcarried.count]
    exact ⟨stop, hstop, hconsecutive, fun hhere => hlast (hbound _ hhere)⟩
  faithful response hmem := by
    have hresponses : m.responsesTo sessionId = n.responsesTo sessionId := by
      simp only [responsesTo, hresponded]
    rw [hresponses]
    exact (h.faithful response hmem).mono List.prefix_rfl hcarried.cursor
  own name hhere := h.own name (hbound name hhere)

theorem Phase.carried (h : Phase profile n) (hclient : m.client = n.client)
    (hcurrent : m.current = n.current) (hdownlink : m.downlink = n.downlink)
    (hresponded : m.responded = n.responded)
    (hcarried : ∀ sessionId s, n.client.sessionId = none ∨ n.client.sessionId = some sessionId →
      Shared n sessionId s → ∃ t, Carried n m sessionId s t)
    (hbound : ∀ other name, m.remote.sessionOf? other = some name →
      n.remote.sessionOf? other = some name ∨ n.current ≠ some other ∧ m.uplink other = [])
    (hsilent : ∀ other, n.uplink other = [] → m.uplink other = []) : Phase profile m := by
  have hhere {channel : Nat} (current : n.current = some channel) (name : String)
      (hname : m.remote.sessionOf? channel = some name) :
      n.remote.sessionOf? channel = some name :=
    (hbound channel name hname).resolve_right fun hother => hother.1 current
  cases h with
  | offline status current downlink =>
      exact .offline (hclient ▸ status) (hcurrent.trans current) (hdownlink.trans downlink)
  | waiting channel status current free downlink =>
      refine .waiting channel (hclient ▸ status) (hcurrent.trans current) ?_
        (hdownlink.trans downlink)
      cases hname : m.remote.sessionOf? channel with
      | none => rfl
      | some name => exact nomatch free.symm.trans (hhere current name hname)
  | pending channel sessionId s responses status current mine shared arriving silent allSilent
      downlink =>
      obtain ⟨t, ht⟩ := hcarried sessionId s mine shared
      refine .pending channel sessionId t responses (hclient ▸ status) (hcurrent.trans current)
        (hclient ▸ mine) ht.shared (arriving.carried hclient hresponded ht (hhere current))
        (hsilent channel silent) (fun other hname => ?_) ?_
      · rcases hbound other sessionId hname with hname | ⟨-, hempty⟩
        · exact hsilent other (allSilent other hname)
        · exact hempty
      · rw [ht.same allSilent]
        exact hdownlink.trans downlink
  | attached channel sessionId s responses status current mine shared arriving downlink =>
      obtain ⟨t, ht⟩ := hcarried sessionId s (.inr mine) shared
      exact .attached channel sessionId t responses (hclient ▸ status) (hcurrent.trans current)
        (hclient ▸ mine) ht.shared (arriving.carried hclient hresponded ht (hhere current))
        (hdownlink.trans downlink)

theorem Phase.own (h : Phase profile n) (hstatus : n.client.status = .attached)
    (hcurrent : n.current = some channel) (hbound : n.remote.sessionOf? channel = some sessionId) :
    n.client.sessionId = some sessionId := by
  cases h with
  | offline status | pending _ _ _ _ status => exact nomatch hstatus.symm.trans status
  | waiting _ status => simp [hstatus] at status
  | attached _ _ _ _ _ current mine _ arriving =>
      obtain rfl := Option.some.inj (hcurrent.symm.trans current)
      rw [mine, arriving.own _ hbound]

theorem Invariant.cursor_le (h : Invariant profile n) (hmine : n.client.sessionId = some sessionId)
    (hs : n.remote.session? sessionId = some s) :
    n.client.responseCursor ≤ s.nextResponseId := by
  have hlength := h.heard.delivered.length_le
  rw [List.length_map, ← h.heard.cursor, responsesToClient, hmine] at hlength
  exact Nat.le_trans hlength (Nat.le_of_eq (h.kept sessionId s hs).count.symm)

/-! ## Closed channels -/

theorem Invariant.close (h : Invariant profile n) (channel : Nat) :
    Invariant profile (n.step profile (.close channel)) := by
  have hdetach (s : RemoteSession) :
      (Remote.detach channel s).requestCursor = s.requestCursor ∧
        (Remote.detach channel s).nextResponseId = s.nextResponseId ∧
        (Remote.detach channel s).outbox = s.outbox := by
    unfold Remote.detach
    split <;> exact ⟨rfl, rfl, rfl⟩
  have hbound (other : Nat) (name : String)
      (hname : (n.remote.closeChannel channel).2.sessionOf? other = some name) :
      n.remote.sessionOf? other = some name := by
    rw [Remote.sessionOf?_closeChannel] at hname
    grind
  have hcarried (name : String) (s : RemoteSession) (hshared : Shared n name s) :
      Carried n { n with remote := (n.remote.closeChannel channel).2 } name s
        (Remote.detach channel s) := by
    obtain ⟨hcursor, hcount, houtbox⟩ := hdetach s
    refine ⟨⟨?_, ?_, ?_⟩, hcount, Nat.le_of_eq hcursor.symm, fun _ => hcursor⟩
    · exact (Remote.session?_closeChannel h.bound).trans (by rw [hshared.found]; rfl)
    · exact hcursor.trans hshared.cursor
    · rw [hcount, houtbox]
      exact hshared.outbox
  have hlast : (n.remote.closeChannel channel).2.lastChannel = n.remote.lastChannel :=
    Remote.lastChannel_closeChannel
  refine { h with
    bound := h.bound.closeChannel
    greeted := h.greeted.closeChannel h.bound
    sent := { h.sent with }
    heard := { h.heard with }
    shared := ?_, kept := ?_, known := ?_, outgoing := ?_, opened := ?_, unused := ?_
    phase := h.phase.carried rfl rfl rfl rfl (fun name s _ hs => ⟨_, hcarried name s hs⟩)
      (fun other name hname => .inl (hbound other name hname)) fun _ => id }
  · intro name hname
    obtain ⟨s, hshared⟩ := h.shared name hname
    exact ⟨_, (hcarried name s hshared).shared⟩
  · intro name t ht
    obtain ⟨s, hs, rfl⟩ :=
      Option.map_eq_some_iff.mp ((Remote.session?_closeChannel h.bound).symm.trans ht)
    obtain ⟨hcursor, hcount, houtbox⟩ := hdetach s
    obtain ⟨count, outbox, faithful⟩ := h.kept name s hs
    constructor
    · exact hcount.trans count
    · rwa [hcount, houtbox]
    · rwa [hcursor, houtbox]
  · intro entry hmem
    change ((n.remote.closeChannel channel).2.session? entry.1).isSome
    rw [Remote.session?_closeChannel h.bound, Option.isSome_map]
    exact h.known entry hmem
  · exact fun other => (h.outgoing other).unmoved rfl rfl rfl (fun _ => rfl) rfl (hbound other)
  · exact fun other hcurrent => Nat.le_trans (h.opened other hcurrent) (Nat.le_of_eq hlast.symm)
  · exact fun other hbeyond => h.unused other (Nat.lt_of_le_of_lt (Nat.le_of_eq hlast.symm) hbeyond)

end ResumableSession.Network
