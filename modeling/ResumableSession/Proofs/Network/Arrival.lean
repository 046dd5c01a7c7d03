import ResumableSession.Proofs.Network.Remote

/-!
The invariant and messages that arrive at the other side.

A message may be passed over, it may open the connection of the client or another one that the
client has left, or it is the request that is accepted next.  On a bound channel it is never any
other request.
-/

namespace ResumableSession.Network

variable {profile : Profile} {n m : Network} {channel : Nat} {sessionId : String}
  {s t : RemoteSession} {slot : Channel}

/-! ## Messages that are passed over -/

theorem step_arrive {message : ClientMessage} {rest : List ClientMessage}
    (huplink : n.uplink channel = message :: rest) :
    n.step profile (.arrive channel) =
      { n with uplink := Function.update n.uplink channel rest }.answer
        (n.remote.handle channel message) := by
  simp only [step, huplink]

theorem Invariant.passed (h : Invariant profile n) {message : ClientMessage}
    {rest : List ClientMessage} (huplink : n.uplink channel = message :: rest)
    (hfree : ∀ request, message = .request request → n.remote.sessionOf? channel = none) :
    Invariant profile { n with uplink := Function.update n.uplink channel rest } := by
  have hsilent (other : Nat) (hcarried : n.uplink other = []) :
      Function.update n.uplink channel rest other = [] := by
    rw [Function.update_of_ne, hcarried]
    rintro rfl
    rw [huplink] at hcarried
    contradiction
  refine { h with
    sent := { h.sent with }
    heard := { h.heard with }
    shared := ?_, outgoing := ?_
    unused := fun other hlast => hsilent other (h.unused other hlast)
    phase := h.phase.carried rfl rfl rfl rfl
      (fun name s _ hs => ⟨s, ⟨{ hs with }, rfl, Nat.le_refl _, fun _ => rfl⟩⟩)
      (fun other name => .inl) hsilent }
  · intro name hname
    obtain ⟨s, hshared⟩ := h.shared name hname
    exact ⟨s, { hshared with }⟩
  · intro other
    by_cases hother : other = channel
    · subst hother
      -- A token was passed over, or the opener itself, or a request that no session is there for.
      have hrest : Function.update n.uplink other rest other = rest := Function.update_self ..
      cases h.outgoing other with
      | opening tokens opener isOpener free present carried =>
          cases tokens with
          | nil =>
              obtain ⟨-, rfl⟩ := List.cons.inj (huplink.symm.trans carried)
              refine .silent { h.sent with } hrest fun hcurrent => ?_
              have := (present hcurrent).1
              grind
          | cons token tokens =>
              obtain ⟨-, rfl⟩ := List.cons.inj (huplink.symm.trans carried)
              exact .opening tokens opener isOpener free present hrest
      | requests requests genuine ahead quiet carried =>
          cases requests with
          | nil => exact nomatch huplink.symm.trans carried
          | cons request requests =>
              obtain ⟨rfl, rfl⟩ := List.cons.inj (huplink.symm.trans carried)
              refine .requests requests ?_ ?_ ?_ hrest
              · exact fun request hmem => genuine request (List.mem_cons_of_mem _ hmem)
              · intro name hbound
                exact nomatch (hfree request rfl).symm.trans hbound
              · exact fun hcurrent hstatus => nomatch quiet hcurrent hstatus
    · exact (h.outgoing other).unmoved rfl rfl rfl (fun _ => rfl)
        (Function.update_of_ne hother ..) fun _ => id

/-! ## Openers -/

theorem Invariant.outgoing_bound (h : Invariant profile n) (hclient : m.client = n.client)
    (hrequested : m.requested = n.requested) (hcurrent : m.current = n.current)
    (huplink : m.uplink = n.uplink) (haccepted : m.accepted = n.accepted)
    (silent : n.uplink channel = [])
    (hstatus : n.current = some channel → n.client.status = .connected)
    (hbound : ∀ other name, other ≠ channel → m.remote.sessionOf? other = some name →
      n.remote.sessionOf? other = some name) (other : Nat) : Outgoing m other := by
  by_cases hother : other = channel
  · subst hother
    have hsent := h.sent.keep hclient hrequested haccepted
    apply Outgoing.silent hsent (huplink ▸ silent)
    intro hpresent
    rw [hclient, hstatus (hcurrent.symm.trans hpresent)]
    simp
  · refine (h.outgoing other).unmoved hclient hrequested hcurrent (fun _ => haccepted) ?_ ?_
    · rw [huplink]
    · exact fun name hname => hbound other name hother hname

def created (profile : Profile) (channel : Nat) (n : Network) : Network :=
  n.act [.send channel (.success n.remote.nextName 1000 profile)]
    (n.remote.created channel profile)

theorem accepted_created : (n.created profile channel).accepted = n.accepted :=
  accepted_append rfl (by simp)

theorem updated_created :
    Updated n (n.created profile channel) n.remote.nextName { profile, channel := some channel } :=
  ⟨rfl, fun _ => Remote.session?_created⟩

theorem sessionOf?_created (here : n.remote.channel? channel = some slot) (other : Nat) :
    (n.created profile channel).remote.sessionOf? other =
      if other = channel then some n.remote.nextName else n.remote.sessionOf? other :=
  Remote.sessionOf?_created here

theorem Shared.created (h : Shared n sessionId s) (hbound : n.remote.Bound) :
    Carried n (n.created profile channel) sessionId s s := by
  have hne : sessionId ≠ n.remote.nextName := by
    rintro rfl
    have hnew := h.found
    rw [hbound.session?_nextName] at hnew
    contradiction
  have hupdated : Updated n (n.created profile channel) _ _ := updated_created
  refine ⟨⟨?_, ?_, h.outbox⟩, rfl, Nat.le_refl _, fun _ => rfl⟩
  · rw [hupdated.session?, if_neg hne, h.found]
  · rw [accepted_created, h.cursor]

theorem Invariant.responsesTo_nextName (h : Invariant profile n) :
    n.responsesTo n.remote.nextName = [] := by
  -- The name is new, so nothing was ever given to a session of this name.
  apply List.map_eq_nil_iff.mpr
  apply List.filter_eq_nil_iff.mpr
  intro entry hmem hname
  have hknown := h.known entry hmem
  rw [of_decide_eq_true hname, h.bound.session?_nextName] at hknown
  contradiction

theorem Invariant.pending_created (h : Invariant profile n)
    (here : n.remote.channel? channel = some slot) (silent : n.uplink channel = [])
    (hcurrent : n.current = some channel) (hstatus : n.client.status = .connected)
    (hnew : n.client.sessionId = none) (hdownlink : n.downlink = []) :
    Phase profile (n.created profile channel) := by
  obtain ⟨hnothing, hcursor⟩ := h.fresh hnew
  have hshared : Shared (n.created profile channel) n.remote.nextName
      { profile, channel := some channel } := by
    refine ⟨(updated_created.session? _).trans (if_pos rfl), ?_, 0, Nat.zero_le _, rfl⟩
    simp [accepted_created, hnothing]
  have harriving : Arriving (n.created profile channel) channel n.remote.nextName
      { profile, channel := some channel } [] := by
    refine ⟨⟨0, Nat.le_refl _, hcursor, fun _ => rfl⟩, by simp, fun name hname => ?_⟩
    rw [sessionOf?_created here, if_pos rfl] at hname
    exact (Option.some.inj hname).symm
  refine .pending channel n.remote.nextName { profile, channel := some channel } [] hstatus
    hcurrent (.inl hnew) hshared harriving silent (fun other hname => ?_) ?_
  · rw [sessionOf?_created here] at hname
    split at hname
    · next he => exact he ▸ silent
    · rw [h.bound.agree, Remote.channelOf?, h.bound.session?_nextName] at hname
      contradiction
  · simp [created, act, reaching, hcurrent, hdownlink]

theorem Invariant.created (h : Invariant profile n) (here : n.remote.channel? channel = some slot)
    (live : slot.retired = false) (free : n.remote.sessionOf? channel = none)
    (silent : n.uplink channel = [])
    (present : n.current = some channel →
      n.client.status = .connected ∧ n.client.sessionId = none ∧ n.downlink = []) :
    Invariant profile (n.created profile channel) := by
  refine { h with
    bound := h.bound.created here live free
    greeted := h.greeted.created
    sent := h.sent.keep rfl rfl accepted_created
    heard := { h.heard with }
    fresh := fun hnone => by rw [accepted_created]; exact h.fresh hnone
    shared := ?_
    kept := updated_created.kept h.kept (h.responsesTo_nextName ▸ .new profile channel)
    known := updated_created.known h.known
    outgoing := ?_, phase := ?_ }
  · intro name hname
    obtain ⟨s, hs⟩ := h.shared name hname
    exact ⟨s, (hs.created h.bound).shared⟩
  · refine h.outgoing_bound rfl rfl rfl rfl accepted_created silent (fun hc => (present hc).1) ?_
    intro other name hother hname
    rwa [sessionOf?_created here, if_neg hother] at hname
  · by_cases hcurrent : n.current = some channel
    · obtain ⟨hstatus, hnew, hdownlink⟩ := present hcurrent
      exact h.pending_created here silent hcurrent hstatus hnew hdownlink
    · refine h.phase.carried rfl rfl ?_ rfl (fun name s _ hs => ⟨s, hs.created h.bound⟩)
        (fun other name hname => ?_) fun _ => id
      · simp [Network.created, act, reaching, hcurrent]
      · rw [sessionOf?_created here] at hname
        split at hname
        · next he => exact .inr ⟨he ▸ hcurrent, he ▸ silent⟩
        · exact .inl hname

def resumed (channel : Nat) (sessionId : String) (responseCursor : Nat) (s : RemoteSession)
    (n : Network) : Network :=
  n.act
    (s.channel.toList.map .shutdown ++
      Remote.resumption channel sessionId (Remote.resumed channel responseCursor s))
    (n.remote.moved channel sessionId responseCursor s)

section Resumed

variable {responseCursor : Nat}

theorem accepted_resumed :
    (n.resumed channel sessionId responseCursor s).accepted = n.accepted := by
  apply accepted_append rfl
  rintro _ hmem name id payload rfl
  simp [Remote.resumption] at hmem

theorem updated_resumed (found : n.remote.session? sessionId = some s) :
    Updated n (n.resumed channel sessionId responseCursor s) sessionId
      (Remote.resumed channel responseCursor s) :=
  ⟨rfl, fun _ => Remote.session?_moved found responseCursor⟩

theorem sessionOf?_resumed (here : n.remote.channel? channel = some slot)
    (hne : s.channel ≠ some channel) (other : Nat) :
    (n.resumed channel sessionId responseCursor s).remote.sessionOf? other =
      if other = channel then some sessionId
      else if s.channel = some other then none
      else n.remote.sessionOf? other :=
  Remote.sessionOf?_moved hne here responseCursor

theorem sessionOf?_of_resumed (here : n.remote.channel? channel = some slot)
    (hne : s.channel ≠ some channel) {other : Nat} {name : String} (hother : other ≠ channel)
    (hname : (n.resumed channel sessionId responseCursor s).remote.sessionOf? other = some name) :
    s.channel ≠ some other ∧ n.remote.sessionOf? other = some name := by
  rw [sessionOf?_resumed here hne, if_neg hother] at hname
  grind

theorem downlink_resumed :
    (n.resumed channel sessionId responseCursor s).downlink =
      n.downlink ++
        if n.current = some channel then
          .success sessionId s.requestCursor s.profile ::
            (s.outbox.dropBelow responseCursor).entries.map .response
        else [] := by
  have hold : (s.channel.toList.map Action.shutdown).filterMap (reaching n.current) = [] := by
    cases s.channel <;> rfl
  simp only [resumed, act, List.filterMap_append, hold, List.nil_append, Remote.resumption,
    Remote.resumed]
  split
  · next hcurrent => simp [reaching, hcurrent, List.filterMap_map, Function.comp_def]
  · next hcurrent => simp [reaching, hcurrent]

theorem Invariant.carried_resumed (h : Invariant profile n)
    (found : n.remote.session? sessionId = some s) (mine : n.client.sessionId = some sessionId)
    (hcursor : responseCursor ≤ n.client.responseCursor) {name : String} (ht : Shared n name t) :
    Carried n (n.resumed channel sessionId responseCursor s) name t
      (if name = sessionId then Remote.resumed channel responseCursor s else t) := by
  have hsession : (n.resumed channel sessionId responseCursor s).remote.session? name = _ :=
    (updated_resumed found).session? name
  by_cases hname : name = sessionId
  · subst hname
    obtain rfl := ht.eq found
    rw [if_pos rfl] at hsession ⊢
    refine ⟨?_, rfl, Nat.le_refl _, fun _ => rfl⟩
    refine ht.release rfl hcursor rfl rfl (h.cursor_le mine found) hsession ?_
    rw [accepted_resumed, ← ht.cursor]
    rfl
  · rw [if_neg hname] at hsession ⊢
    refine ⟨⟨?_, ?_, ht.outbox⟩, rfl, Nat.le_refl _, fun _ => rfl⟩
    · exact hsession.trans ht.found
    · rw [accepted_resumed, ht.cursor]

theorem Invariant.pending_resumed (h : Invariant profile n)
    (here : n.remote.channel? channel = some slot) (free : n.remote.sessionOf? channel = none)
    (found : n.remote.session? sessionId = some s) (silent : n.uplink channel = [])
    (mine : n.client.sessionId = some sessionId) (hcurrent : n.current = some channel)
    (hstatus : n.client.status = .connected) (hdownlink : n.downlink = []) :
    Phase profile (n.resumed channel sessionId n.client.responseCursor s) := by
  -- What the outbox still holds from the cursor on is just what the client waits for.
  have hne := h.bound.channel_ne free found
  have hle := h.cursor_le mine found
  obtain ⟨t, ht⟩ := h.shared sessionId mine
  obtain rfl := ht.eq found
  have hcarried : Carried n (n.resumed channel sessionId n.client.responseCursor s) _ _ _ :=
    h.carried_resumed found mine (Nat.le_refl _) ht
  rw [if_pos rfl] at hcarried
  have harriving : Arriving (n.resumed channel sessionId n.client.responseCursor s) channel
      sessionId (Remote.resumed channel n.client.responseCursor s)
      (s.outbox.dropBelow n.client.responseCursor).entries := by
    constructor
    · obtain ⟨first, hfirst, hentries⟩ := ht.outbox
      have hentries := hentries.dropBelow hle
      rw [Nat.max_eq_right hfirst] at hentries
      exact ⟨_, Nat.le_refl _, hentries, fun _ => rfl⟩
    · intro response hmem
      exact (h.kept sessionId s found).faithful response (Outbox.mem_of_mem_dropBelow hmem)
    · intro name hname
      rw [sessionOf?_resumed here hne, if_pos rfl] at hname
      exact (Option.some.inj hname).symm
  refine .pending channel sessionId _ _ hstatus hcurrent (.inr mine) hcarried.shared harriving
    silent (fun other hname => ?_) ?_
  · by_cases hother : other = channel
    · exact hother ▸ silent
    · obtain ⟨hleft, hname⟩ := sessionOf?_of_resumed here hne hother hname
      rw [h.bound.agree, Remote.channelOf?_of_session found] at hname
      exact absurd hname hleft
  · rw [downlink_resumed, if_pos hcurrent, hdownlink, h.greeted.sessions sessionId s found]
    rfl

theorem Invariant.resumed (h : Invariant profile n)
    (here : n.remote.channel? channel = some slot) (live : slot.retired = false)
    (free : n.remote.sessionOf? channel = none) (found : n.remote.session? sessionId = some s)
    (silent : n.uplink channel = []) (mine : n.client.sessionId = some sessionId)
    (hcursor : responseCursor ≤ n.client.responseCursor)
    (present : n.current = some channel → n.client.status = .connected ∧
      responseCursor = n.client.responseCursor ∧ n.downlink = []) :
    Invariant profile (n.resumed channel sessionId responseCursor s) := by
  have hne := h.bound.channel_ne free found
  have hlast : (n.resumed channel sessionId responseCursor s).remote.lastChannel =
      n.remote.lastChannel :=
    Remote.lastChannel_moved responseCursor
  have hkept : Kept (n.responsesTo sessionId) (Remote.resumed channel responseCursor s) :=
    (h.kept sessionId s found).release (Nat.le_trans hcursor (h.cursor_le mine found)) rfl
      (Nat.le_refl _) rfl
  refine { h with
    bound := h.bound.moved here live free found _
    greeted := h.greeted.moved hne found _
    sent := h.sent.keep rfl rfl accepted_resumed
    heard := { h.heard with }
    fresh := fun hnone => by rw [accepted_resumed]; exact h.fresh hnone
    shared := ?_
    kept := (updated_resumed found).kept h.kept hkept
    known := (updated_resumed found).known h.known
    outgoing := ?_, opened := ?_, unused := ?_, phase := ?_ }
  · intro name hname
    obtain ⟨t, ht⟩ := h.shared name hname
    exact ⟨_, (h.carried_resumed found mine hcursor ht).shared⟩
  · refine h.outgoing_bound rfl rfl rfl rfl accepted_resumed silent (fun hc => (present hc).1) ?_
    exact fun other name hother hname => (sessionOf?_of_resumed here hne hother hname).2
  · intro other hcurrent
    rw [hlast]
    exact h.opened other hcurrent
  · intro other hbeyond
    rw [hlast] at hbeyond
    exact h.unused other hbeyond
  · by_cases hcurrent : n.current = some channel
    · obtain ⟨hstatus, rfl, hdownlink⟩ := present hcurrent
      exact h.pending_resumed here free found silent mine hcurrent hstatus hdownlink
    · refine h.phase.carried rfl rfl ?_ rfl
        (fun name t _ ht => ⟨_, h.carried_resumed found mine hcursor ht⟩)
        (fun other name hname => ?_) fun _ => id
      · rw [downlink_resumed, if_neg hcurrent, List.append_nil]
      · by_cases hother : other = channel
        · exact .inr ⟨hother ▸ hcurrent, hother ▸ silent⟩
        · exact .inl (sessionOf?_of_resumed here hne hother hname).2

end Resumed

/-! ## Requests -/

def taken (channel : Nat) (sessionId : String) (s : RemoteSession) (request : Request)
    (rest : List ClientMessage) (n : Network) : Network :=
  { n with uplink := Function.update n.uplink channel rest }.act
    [.deliver sessionId request.id request.payload]
    (n.remote.modifySession sessionId (Remote.accept (s.outbox.dropBelow request.responseCursor)))

section Taken

variable {request : Request} {requests : List Request} {rest : List ClientMessage}

theorem accepted_taken :
    (n.taken channel sessionId s request rest).accepted =
      n.accepted ++ [(request.payload, request.id)] :=
  accepted_push rfl

theorem length_accepted_taken :
    (n.taken channel sessionId s request rest).accepted.length = n.accepted.length + 1 := by
  simp [accepted_taken]

theorem updated_taken (found : n.remote.session? sessionId = some s) :
    Updated n (n.taken channel sessionId s request rest) sessionId
      (Remote.accept (s.outbox.dropBelow request.responseCursor) s) :=
  ⟨rfl, fun _ => Remote.session?_modifySession_of_session found _⟩

theorem uplink_taken (hcarried : n.uplink channel ≠ []) {other : Nat}
    (hother : n.uplink other = []) :
    (n.taken channel sessionId s request rest).uplink other = [] := by
  refine (Function.update_of_ne ?_ ..).trans hother
  rintro rfl
  exact hcarried hother

theorem Sent.taken (h : Sent n) (hid : request.id = 1000 + n.accepted.length)
    (hgenuine : Genuine n.requested n.client.responseCursor request) :
    Sent (n.taken channel sessionId s request rest) := by
  obtain ⟨nextId, ⟨first, hfirst, hentries⟩, genuine, accepted⟩ := h
  have hpayload := hgenuine.payload
  rw [hid, Nat.add_sub_cancel_left] at hpayload
  have hnext : (n.requested.zipIdx 1000)[n.accepted.length]? =
      some (request.payload, request.id) := by
    simp [List.getElem?_zipIdx, hpayload, hid]
  refine ⟨nextId, ⟨first, ?_, hentries⟩, genuine, ?_⟩
  · rw [length_accepted_taken]
    exact Nat.le_succ_of_le hfirst
  · rw [accepted_taken]
    exact push_prefix accepted hnext

theorem Invariant.carried_taken (h : Invariant profile n)
    (bound : n.remote.sessionOf? channel = some sessionId)
    (mine : n.client.sessionId = some sessionId) (hcarried : n.uplink channel ≠ [])
    (hgenuine : Genuine n.requested n.client.responseCursor request)
    (hs : Shared n sessionId s) :
    Carried n (n.taken channel sessionId s request rest) sessionId s
      (Remote.accept (s.outbox.dropBelow request.responseCursor) s) := by
  have hle := h.cursor_le mine hs.found
  refine ⟨hs.release rfl hgenuine.cursor rfl rfl hle ?_ ?_, rfl, Nat.le_succ _, fun hsilent => ?_⟩
  · rw [(updated_taken hs.found).session?, if_pos rfl]
  · rw [length_accepted_taken, ← Nat.add_assoc, ← hs.cursor]
    rfl
  · exact absurd (hsilent channel bound) hcarried

theorem Invariant.uplink_of_other (h : Invariant profile n) {name : String} {other : Nat}
    (bound : n.remote.sessionOf? other = some name) (hname : n.client.sessionId ≠ some name) :
    n.uplink other = [] := by
  cases h.outgoing other with
  | opening _ _ _ free =>
      rw [bound] at free
      contradiction
  | requests requests _ ahead _ carried =>
      have hnone : requests = [] := by
        by_contra hsome
        exact hname ((ahead name bound).mine hsome)
      simp [carried, hnone]

theorem Invariant.outgoing_taken (h : Invariant profile n)
    (bound : n.remote.sessionOf? channel = some sessionId)
    (hcarried : n.uplink channel ≠ [])
    (genuine : ∀ other ∈ request :: requests,
      Genuine n.requested n.client.responseCursor other)
    (ahead : Ahead n channel sessionId (request :: requests))
    (quiet : n.current = some channel → n.client.status = .attached) (other : Nat) :
    Outgoing (n.taken channel sessionId s request (requests.map .request)) other := by
  have mine := ahead.mine (by simp)
  obtain ⟨⟨stop, hstop, ⟨hid, hconsecutive⟩, hlast⟩, -⟩ := ahead
  by_cases hother : other = channel
  · subst hother
    refine .requests requests ?_ ?_ ?_ (Function.update_self ..)
    · exact fun later hmem => genuine later (List.mem_cons_of_mem _ hmem)
    · intro name hname
      rw [show (n.taken other sessionId s request _).remote.sessionOf? other = _ from bound]
        at hname
      obtain rfl := Option.some.inj hname
      refine ⟨⟨stop, hstop, ?_, hlast⟩, fun _ => mine⟩
      rw [length_accepted_taken]
      exact hconsecutive
    · exact fun hcurrent hstatus => absurd (quiet hcurrent) hstatus
  -- The other channels are not bound to this session, so if they are bound they are empty.
  · cases hof : n.remote.sessionOf? other with
    | none =>
        exact (h.outgoing other).unmoved rfl rfl rfl (fun hbound => absurd hof hbound)
          (Function.update_of_ne hother ..) fun _ => id
    | some name =>
        have hname : n.client.sessionId ≠ some name := by
          rw [mine]
          rintro ⟨⟩
          have hsame := ((h.bound.agree _ _).mp bound).symm.trans ((h.bound.agree _ _).mp hof)
          exact hother (Option.some.inj hsame).symm
        have hsent : Sent (n.taken channel sessionId s request (requests.map .request)) :=
          h.sent.taken hid (genuine request List.mem_cons_self)
        apply Outgoing.silent hsent (uplink_taken hcarried (h.uplink_of_other hof hname))
        exact fun hcurrent hattached => hname (h.phase.own hattached hcurrent hof)

theorem Invariant.taken (h : Invariant profile n)
    (bound : n.remote.sessionOf? channel = some sessionId)
    (found : n.remote.session? sessionId = some s) (hcarried : n.uplink channel ≠ [])
    (genuine : ∀ other ∈ request :: requests,
      Genuine n.requested n.client.responseCursor other)
    (ahead : Ahead n channel sessionId (request :: requests))
    (quiet : n.current = some channel → n.client.status = .attached) :
    Invariant profile (n.taken channel sessionId s request (requests.map .request)) := by
  have mine := ahead.mine (by simp)
  have hgenuine := genuine request List.mem_cons_self
  have hkept : Kept (n.responsesTo sessionId)
      (Remote.accept (s.outbox.dropBelow request.responseCursor) s) :=
    (h.kept sessionId s found).release
      (Nat.le_trans hgenuine.cursor (h.cursor_le mine found)) rfl (Nat.le_succ _) rfl
  have hmoved {name : String} {t : RemoteSession} (hname : n.client.sessionId = some name)
      (ht : Shared n name t) :
      ∃ u, Carried n (n.taken channel sessionId s request (requests.map .request)) name t u := by
    obtain rfl := Option.some.inj (mine.symm.trans hname)
    obtain rfl := ht.eq found
    exact ⟨_, h.carried_taken bound mine hcarried hgenuine ht⟩
  obtain ⟨_, -, ⟨hid, -⟩, -⟩ := ahead.consecutive
  refine { h with
    bound := h.bound.modifySession fun _ => rfl
    greeted := h.greeted.modifySession fun _ => rfl
    sent := h.sent.taken hid hgenuine
    heard := { h.heard with }
    fresh := by simp [Network.taken, act, mine]
    shared := ?_
    kept := (updated_taken found).kept h.kept hkept
    known := (updated_taken found).known h.known
    outgoing := h.outgoing_taken bound hcarried genuine ahead quiet
    unused := fun other hbeyond => uplink_taken hcarried (h.unused other hbeyond)
    phase := ?_ }
  · intro name hname
    obtain ⟨t, ht⟩ := h.shared name hname
    obtain ⟨u, hu⟩ := hmoved hname ht
    exact ⟨u, hu.shared⟩
  · refine h.phase.carried rfl rfl (List.append_nil _) rfl (fun name t hname ht => ?_)
      (fun _ _ => .inl) fun other => uplink_taken hcarried
    refine hmoved (hname.resolve_left ?_) ht
    simp [mine]

end Taken

/-! ## All messages -/

theorem Phase.awaits (h : Phase profile n) (hcurrent : n.current = some channel)
    (hstatus : n.client.status = .connected) (hcarried : n.uplink channel ≠ []) :
    n.downlink = [] := by
  cases h with
  | offline _ _ downlink | waiting _ _ _ _ downlink => exact downlink
  | pending _ _ _ _ _ current _ _ _ silent =>
      obtain rfl := Option.some.inj (hcurrent.symm.trans current)
      exact absurd silent hcarried
  | attached _ _ _ _ status => exact nomatch hstatus.symm.trans status

theorem act_nil (n : Network) : n.act [] n.remote = n := by
  simp [act]

theorem Outgoing.opener_eq {message : ClientMessage} {rest : List ClientMessage}
    (h : Outgoing n channel) (huplink : n.uplink channel = message :: rest)
    (hauth : ∀ token, message ≠ .auth token) (hrequest : ∀ request, message ≠ .request request) :
    rest = [] ∧ Opener n.client message ∧
      (n.current = some channel → n.client.status = .connected ∧ message = n.client.opener) := by
  cases h with
  | opening tokens opener isOpener free present carried =>
      cases tokens with
      | nil =>
          obtain ⟨rfl, rfl⟩ := List.cons.inj (huplink.symm.trans carried)
          exact ⟨rfl, isOpener, present⟩
      | cons token tokens =>
          obtain ⟨rfl, -⟩ := List.cons.inj (huplink.symm.trans carried)
          exact absurd rfl (hauth token)
  | requests requests _ _ _ carried =>
      cases requests with
      | nil => exact nomatch huplink.symm.trans carried
      | cons request requests =>
          obtain ⟨rfl, -⟩ := List.cons.inj (huplink.symm.trans carried)
          exact absurd rfl (hrequest request)

theorem Outgoing.requests_eq {request : Request} {rest : List ClientMessage}
    (h : Outgoing n channel) (huplink : n.uplink channel = .request request :: rest)
    (hbound : n.remote.sessionOf? channel = some sessionId) :
    ∃ requests : List Request, rest = requests.map .request ∧
      (∀ other ∈ request :: requests, Genuine n.requested n.client.responseCursor other) ∧
      Ahead n channel sessionId (request :: requests) ∧
      (n.current = some channel → n.client.status = .attached) := by
  cases h with
  | opening _ _ _ free => exact nomatch free.symm.trans hbound
  | requests requests genuine ahead quiet carried =>
      cases requests with
      | nil => exact nomatch huplink.symm.trans carried
      | cons first requests =>
          obtain ⟨hfirst, rfl⟩ := List.cons.inj (huplink.symm.trans carried)
          obtain rfl := ClientMessage.request.inj hfirst
          refine ⟨requests, rfl, genuine, ahead sessionId hbound, fun hcurrent => ?_⟩
          by_contra hstatus
          exact nomatch quiet hcurrent hstatus

theorem Invariant.arrive (h : Invariant profile n) (channel : Nat) :
    Invariant profile (n.step profile (.arrive channel)) := by
  cases huplink : n.uplink channel with
  | nil =>
      simp only [step, huplink]
      exact h
  | cons message rest =>
      rw [step_arrive huplink]
      have hcarried : n.uplink channel ≠ [] := huplink ▸ nofun
      have hhandling := Remote.handle_handling h.bound h.greeted channel message
      generalize n.remote.handle channel message = result at hhandling
      cases hhandling with
      | refused _ _ free | ignored _ free =>
          have hpassed := h.passed huplink free
          rwa [← act_nil { n with uplink := Function.update n.uplink channel rest }] at hpassed
      | created slot here live free =>
          obtain ⟨rfl, -, present⟩ := (h.outgoing channel).opener_eq huplink nofun nofun
          refine (h.passed huplink nofun).created here live free (Function.update_self ..) ?_
          intro hcurrent
          obtain ⟨hstatus, hopener⟩ := present hcurrent
          refine ⟨hstatus, ?_, h.phase.awaits hcurrent hstatus hcarried⟩
          unfold Session.opener at hopener
          split at hopener
          · assumption
          · contradiction
      | unknown sessionId responseCursor missing =>
          obtain ⟨-, isOpener, -⟩ := (h.outgoing channel).opener_eq huplink nofun nofun
          cases isOpener with
          | attach _ _ mine =>
              obtain ⟨s, hs⟩ := h.shared sessionId mine
              exact nomatch missing.symm.trans hs.found
      | resumed sessionId responseCursor s slot here live free found =>
          obtain ⟨rfl, isOpener, present⟩ := (h.outgoing channel).opener_eq huplink nofun nofun
          cases isOpener with
          | attach _ _ mine cursor =>
              refine (h.passed huplink nofun).resumed here live free found
                (Function.update_self ..) mine cursor fun hcurrent => ?_
              obtain ⟨hstatus, hopener⟩ := present hcurrent
              refine ⟨hstatus, ?_, h.phase.awaits hcurrent hstatus hcarried⟩
              rw [Session.opener, mine] at hopener
              exact (ClientMessage.attach.inj hopener).2
      | accepted sessionId request s bound found next =>
          obtain ⟨requests, rfl, genuine, ahead, quiet⟩ :=
            (h.outgoing channel).requests_eq huplink bound
          exact h.taken bound found hcarried genuine ahead quiet
      | repeated sessionId request s bound found other =>
          -- A bound channel goes on with the request that is accepted next.
          obtain ⟨requests, rfl, -, ahead, -⟩ := (h.outgoing channel).requests_eq huplink bound
          obtain ⟨⟨_, -, ⟨hid, -⟩, -⟩, mine⟩ := ahead
          obtain ⟨t, ht⟩ := h.shared sessionId (mine nofun)
          obtain rfl := ht.eq found
          exact absurd (hid.trans ht.cursor.symm) other

end ResumableSession.Network
