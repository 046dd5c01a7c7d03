import ResumableSession.Proofs.Network.Invariant

/-!
The invariant and what the client does.
-/

namespace ResumableSession.Network

variable {profile : Profile} {n : Network} {channel : Nat}

/-! ## Requests -/

theorem step_request_attached (hattached : n.client.status = .attached)
    (hcurrent : n.current = some channel) (payload : Json) :
    n.step profile (.request payload) =
      let request : Request := ⟨n.client.nextRequestId, n.client.responseCursor, payload⟩
      { n with
        requested := n.requested ++ [payload]
        client := (n.client.request payload).1
        uplink := Function.update n.uplink channel (n.uplink channel ++ [.request request])
        effects := n.effects ++ [.send (.request request)] } := by
  simp [step, feed, react, Session.step, Session.request, hattached, perform, hcurrent]

theorem step_request_detached (hdetached : n.client.status ≠ .attached) (payload : Json) :
    n.step profile (.request payload) =
      { n with
        requested := n.requested ++ [payload]
        client := (n.client.request payload).1 } := by
  simp [step, feed, react, Session.step, Session.request, hdetached]

theorem Genuine.last (h : Sent n) (payload : Json) :
    Genuine (n.requested ++ [payload]) n.client.responseCursor
      ⟨n.client.nextRequestId, n.client.responseCursor, payload⟩ where
  payload := by rw [h.nextId, Nat.add_sub_cancel_left, List.getElem?_concat_length]
  cursor := Nat.le_refl _

theorem Genuine.push (h : Sent n) (payload : Json) {requests : List Request}
    (hgenuine : ∀ request ∈ requests, Genuine n.requested n.client.responseCursor request) :
    ∀ request ∈ requests ++ [⟨n.client.nextRequestId, n.client.responseCursor, payload⟩],
      Genuine (n.requested ++ [payload]) n.client.responseCursor request := by
  intro request hmem
  rcases List.mem_append.mp hmem with hmem | hmem
  · exact (hgenuine request hmem).mono (List.prefix_append ..) (Nat.le_refl _)
  · obtain rfl := List.mem_singleton.mp hmem
    exact .last h payload

theorem Sent.request (h : Sent n) (payload : Json) {m : Network}
    (hrequested : m.requested = n.requested ++ [payload])
    (hclient : m.client = (n.client.request payload).1) (hactions : m.actions = n.actions) :
    Sent m := by
  have haccepted : m.accepted = n.accepted := by simp only [Network.accepted, hactions]
  constructor
  · rw [hclient, hrequested, List.length_append, List.length_singleton, ← Nat.add_assoc, ← h.nextId]
    rfl
  · obtain ⟨first, hfirst, hentries⟩ := h.outbox
    rw [hclient, haccepted]
    exact ⟨first, hfirst, hentries.push rfl⟩
  · rw [hclient, hrequested]
    intro request hmem
    exact Genuine.push h payload h.genuine request hmem
  · rw [haccepted, hrequested, List.zipIdx_append]
    exact h.accepted.trans (List.prefix_append ..)

theorem Invariant.request (h : Invariant profile n) (payload : Json) :
    Invariant profile (n.step profile (.request payload)) := by
  by_cases hattached : n.client.status = .attached
  · cases h.phase with
    | offline status | waiting _ status | pending _ _ _ _ status => grind
    | attached channel sessionId s responses status current mine shared arriving downlink =>
        rw [step_request_attached hattached current]
        refine { h with
          sent := h.sent.request payload rfl rfl rfl
          heard := h.heard.quiet rfl rfl (by simp [Effect.quiet]) List.prefix_rfl
          shared := ?_, outgoing := ?_
          unused := h.unused_update current _
          phase := .attached channel sessionId s responses status current mine { shared with }
            { arriving with } downlink }
        · intro name hname
          obtain ⟨s, hshared⟩ := h.shared name hname
          exact ⟨s, { hshared with }⟩
        · intro other
          by_cases hother : other = channel
          · subst hother
            cases h.outgoing other with
            | opening _ _ _ _ present =>
                have := (present current).1
                grind
            | requests requests genuine ahead quiet carried =>
                -- All earlier requests have been sent, so the new one leaves no gap.
                refine .requests
                  (requests ++ [⟨n.client.nextRequestId, n.client.responseCursor, payload⟩])
                  ?_ ?_ ?_ ?_
                · exact Genuine.push h.sent payload genuine
                · intro name hbound
                  obtain ⟨⟨stop, hstop, hconsecutive, hlast⟩, -⟩ := ahead name hbound
                  obtain rfl := hlast current status
                  refine ⟨⟨_, Nat.le_refl _, hconsecutive.push rfl, fun _ _ => rfl⟩, fun _ => ?_⟩
                  exact arriving.own name hbound ▸ mine
                · exact fun _ hdetached => absurd status hdetached
                · rw [List.map_append, ← carried]
                  exact Function.update_self ..
          · refine (h.outgoing other).elsewhere ?_ hother current rfl rfl rfl
            exact ⟨List.prefix_append .., Nat.le_refl _, Nat.le_succ _, fun _ => id⟩
  · rw [step_request_detached hattached]
    refine { h with
      sent := h.sent.request payload rfl rfl rfl
      heard := { h.heard with }
      shared := ?_, outgoing := ?_, phase := ?_ }
    · intro sessionId hmine
      obtain ⟨s, hshared⟩ := h.shared sessionId hmine
      exact ⟨s, { hshared with }⟩
    · intro channel
      refine (h.outgoing channel).later ?_ (fun _ => rfl) rfl (fun _ => id) fun hcurrent => ?_
      · exact ⟨List.prefix_append .., Nat.le_refl _, Nat.le_succ _, fun _ => id⟩
      · exact ⟨hcurrent, rfl, fun _ => rfl, fun hstatus => absurd hstatus hattached⟩
    · cases h.phase with
      | offline status current downlink => exact .offline status current downlink
      | waiting channel status current free downlink =>
          exact .waiting channel status current free downlink
      | pending channel sessionId s responses status current mine shared arriving silent
          allSilent downlink =>
          exact .pending channel sessionId s responses status current mine { shared with }
            { arriving with } silent allSilent downlink
      | attached _ _ _ _ status => exact absurd status hattached

/-! ## Connections -/

theorem step_connect (hstatus : n.client.status = .disconnected) :
    n.step profile .connect =
      { n with
        client :=
          { n.client with
            attempts := n.client.attempts + 1
            buffer := .empty
            status := .awaitingConnect }
        remote := n.remote.greet profile
        current := some (n.remote.lastChannel + 1)
        downlink := []
        effects := n.effects ++ [.stateChanged .awaitingConnect, .openTransport] } := by
  simp [step, feed, react, Session.step, Session.connect, Session.enter, hstatus, perform,
    Remote.greet, Remote.openChannel]

theorem step_connect_again (hstatus : n.client.status ≠ .disconnected) :
    n.step profile .connect = n := by
  simp [step, feed, react, Session.step, Session.connect, hstatus]

theorem Invariant.connect (h : Invariant profile n) :
    Invariant profile (n.step profile .connect) := by
  by_cases hstatus : n.client.status = .disconnected
  · rw [step_connect hstatus]
    have hfree : (n.remote.greet profile).sessionOf? (n.remote.lastChannel + 1) = none := by
      rw [Remote.sessionOf?_greet h.bound, Remote.sessionOf?, h.bound.channel?_next]
      rfl
    refine { h with
      bound := h.bound.greet
      greeted := h.greeted.greet
      buffer := rfl
      sent := { h.sent with }
      heard := h.heard.quiet rfl rfl (by simp [Effect.quiet]) List.prefix_rfl
      shared := ?_, kept := ?_, known := ?_, outgoing := ?_, opened := ?_, unused := ?_
      phase := .waiting _ (.inl rfl) rfl hfree rfl }
    · intro name hname
      obtain ⟨s, hshared⟩ := h.shared name hname
      exact ⟨s, { hshared with found := Remote.session?_greet.trans hshared.found }⟩
    · intro name s hs
      exact h.kept name s (Remote.session?_greet.symm.trans hs)
    · intro entry hmem
      change ((n.remote.greet profile).session? entry.1).isSome
      rw [Remote.session?_greet]
      exact h.known entry hmem
    · intro channel
      by_cases hnew : channel = n.remote.lastChannel + 1
      · subst hnew
        exact .silent { h.sent with } (h.unused _ (Nat.lt_succ_self _)) (by simp)
      · refine (h.outgoing channel).later ?_ (fun _ => rfl) rfl ?_ fun hcurrent => ?_
        · exact ⟨List.prefix_rfl, Nat.le_refl _, Nat.le_refl _, fun _ => id⟩
        · exact fun name hbound => (Remote.sessionOf?_greet h.bound).symm.trans hbound
        · exact absurd (Option.some.inj hcurrent).symm hnew
    · intro channel hcurrent
      rw [Remote.lastChannel_greet]
      exact Nat.le_of_eq (Option.some.inj hcurrent).symm
    · intro channel hlast
      rw [Remote.lastChannel_greet] at hlast
      exact h.unused channel (Nat.lt_of_succ_lt hlast)
  · rw [step_connect_again hstatus]
    exact h

theorem step_opened (hstatus : n.client.status = .awaitingConnect)
    (hcurrent : n.current = some channel) :
    n.step profile .opened =
      let first := (n.client.config.authToken.map .auth).toList ++ [n.client.opener]
      { n with
        client := { n.client with status := .connected }
        uplink := Function.update n.uplink channel (n.uplink channel ++ first)
        effects := n.effects ++ (first.map .send ++ [.stateChanged .connected]) } := by
  have hopened : n.client.opened =
      ({ n.client with status := .connected },
        ((n.client.config.authToken.map ClientMessage.auth).toList ++ [n.client.opener]).map
            .send ++
          [.stateChanged .connected]) := by
    simp [Session.opened, Session.enter, hstatus]
  rw [← react_sends profile hcurrent, ← hopened]
  simp only [step, hcurrent, feed, Session.step]

theorem step_opened_again (hstatus : n.client.status ≠ .awaitingConnect) :
    n.step profile .opened = n := by
  simp only [step, feed, Session.step, Session.opened, if_neg hstatus]
  split <;> rfl

theorem Opener.opener (s : Session) : Opener s s.opener := by
  unfold Session.opener
  split
  · exact .create
  · next mine => exact .attach _ _ mine (Nat.le_refl _)

theorem Invariant.hasOpened (h : Invariant profile n) :
    Invariant profile (n.step profile .opened) := by
  by_cases hstatus : n.client.status = .awaitingConnect
  · cases h.phase with
    | offline status | pending _ _ _ _ status | attached _ _ _ _ status => grind
    | waiting channel status current free downlink =>
        have hsilent : n.uplink channel = [] := by
          cases h.outgoing channel with
          | opening _ _ _ _ present =>
              have := (present current).1
              grind
          | requests requests _ _ quiet carried =>
              rw [carried, quiet current (by simp [hstatus])]
              rfl
        rw [step_opened hstatus current]
        refine { h with
          sent := { h.sent with }
          heard := h.heard.quiet rfl rfl (Effect.quiet_sends _ _) List.prefix_rfl
          shared := ?_, outgoing := ?_
          unused := h.unused_update current _
          phase := .waiting channel (.inr rfl) current free downlink }
        · intro name hname
          obtain ⟨s, hshared⟩ := h.shared name hname
          exact ⟨s, { hshared with }⟩
        · intro other
          by_cases hother : other = channel
          · subst hother
            refine .opening n.client.config.authToken.toList _ (.opener _) free
              (fun _ => ⟨rfl, rfl⟩) ?_
            apply (Function.update_self ..).trans
            rw [hsilent, Option.toList_map]
            rfl
          · refine (h.outgoing other).elsewhere ?_ hother current rfl rfl rfl
            exact ⟨List.prefix_rfl, Nat.le_refl _, Nat.le_refl _, fun _ => id⟩
  · rw [step_opened_again hstatus]
    exact h

def dropped (cause : SessionError) (n : Network) : Network :=
  { n with
    client := { n.client with status := .disconnected }
    current := none
    downlink := []
    effects := n.effects ++
      [.report cause, .closeTransport, .stateChanged .disconnected,
        .scheduleReconnect n.client.config.reconnectDelay] }

theorem react_dropConnection (hstatus : n.client.status ≠ .disconnected) (cause : SessionError) :
    n.react profile (n.client.dropConnection cause) = n.dropped cause := by
  simp [react, Session.dropConnection, Session.enter, hstatus, perform, dropped]

theorem Invariant.dropped (h : Invariant profile n) {cause : SessionError}
    (hcause : (Effect.report cause).quiet) : Invariant profile (n.dropped cause) := by
  refine { h with
    sent := { h.sent with }
    heard := h.heard.quiet rfl rfl ?_ List.prefix_rfl
    shared := ?_, outgoing := ?_
    opened := by simp [Network.dropped]
    phase := .offline rfl rfl rfl }
  · simpa [Effect.quiet] using hcause
  · intro name hname
    obtain ⟨s, hshared⟩ := h.shared name hname
    exact ⟨s, { hshared with }⟩
  · intro channel
    refine (h.outgoing channel).later ?_ (fun _ => rfl) rfl (fun _ => id)
      (by simp [Network.dropped])
    exact ⟨List.prefix_rfl, Nat.le_refl _, Nat.le_refl _, fun _ => id⟩

theorem Invariant.lose (h : Invariant profile n) (cause : TransportError) :
    Invariant profile (n.step profile (.lose cause)) := by
  cases hcurrent : n.current with
  | none =>
      simp only [step, hcurrent]
      exact h
  | some channel =>
      simp only [step, hcurrent, feed, Session.step, Session.lost]
      split
      · exact h
      · exact h
      all_goals
        rw [react_dropConnection (by simp [*])]
        exact h.dropped rfl

/-! ## Messages from the other side -/

theorem step_receive {message : ServerMessage} {rest : List ServerMessage}
    (hdownlink : n.downlink = message :: rest) :
    n.step profile .receive =
      { n with downlink := rest }.react profile
        (n.client.received (Text.Utf8.encode message.frame)) := by
  simp only [step, hdownlink, feed, Session.step]

theorem Sent.dropBelow (h : Sent n) {m : Network} {threshold : Nat}
    (hthreshold : threshold ≤ 1000 + n.accepted.length)
    (houtbox : m.client.outbox = n.client.outbox.dropBelow threshold)
    (hnext : m.client.nextRequestId = n.client.nextRequestId)
    (hcursor : n.client.responseCursor ≤ m.client.responseCursor)
    (hrequested : m.requested = n.requested) (hactions : m.actions = n.actions) : Sent m := by
  have haccepted : m.accepted = n.accepted := by simp only [Network.accepted, hactions]
  constructor
  · rw [hnext, hrequested, h.nextId]
  · obtain ⟨first, hfirst, hentries⟩ := h.outbox
    rw [houtbox, hnext, haccepted]
    exact ⟨_, Nat.max_le.mpr ⟨hfirst, hthreshold⟩,
      hentries.dropBelow (Nat.le_trans hthreshold h.le)⟩
  · rw [houtbox, hrequested]
    intro request hmem
    exact (h.genuine request (Outbox.mem_of_mem_dropBelow hmem)).mono List.prefix_rfl hcursor
  · rw [haccepted, hrequested]
    exact h.accepted

theorem Invariant.welcomed (h : Invariant profile n) {sessionId : String} {s : RemoteSession}
    {responses : List Response} (status : n.client.status = .connected)
    (current : n.current = some channel)
    (mine : n.client.sessionId = none ∨ n.client.sessionId = some sessionId)
    (shared : Shared n sessionId s) (arriving : Arriving n channel sessionId s responses)
    (silent : n.uplink channel = []) :
    Invariant profile ({ n with downlink := responses.map .response }.react profile
      (n.client.succeeded sessionId s.requestCursor profile)) := by
  have hsucceeded : n.client.succeeded sessionId s.requestCursor profile =
      ({ n.client with
          sessionId := some sessionId
          profile := some profile
          outbox := n.client.outbox.dropBelow s.requestCursor
          status := .attached },
        ((n.client.outbox.dropBelow s.requestCursor).entries.map ClientMessage.request).map
            .send ++
          [.stateChanged .attached]) := by
    simp [Session.succeeded, Session.enter, status]
  have hresponses : n.responsesToClient <+: n.responsesTo sessionId := by
    rcases mine with mine | mine
    · rw [responsesToClient, mine]
      exact List.nil_prefix
    · rw [responsesToClient, mine]
      exact List.prefix_rfl
  have hlater (name : String) (hname : n.client.sessionId = some name) :
      some sessionId = some name := by
    rcases mine with mine | mine
    · rw [mine] at hname
      contradiction
    · exact mine.symm.trans hname
  rw [hsucceeded, react_sends (n := { n with downlink := responses.map .response }) profile current]
  refine { h with
    sent := h.sent.dropBelow (Nat.le_of_eq shared.cursor) rfl rfl (Nat.le_refl _) rfl rfl
    heard := h.heard.quiet rfl rfl (Effect.quiet_sends _ _) hresponses
    fresh := by simp
    shared := ?_, outgoing := ?_
    unused := h.unused_update current _
    phase := .attached channel sessionId s responses rfl current rfl { shared with }
      { arriving with } rfl }
  · intro name hname
    obtain rfl := Option.some.inj hname
    exact ⟨s, { shared with }⟩
  · intro other
    by_cases hother : other = channel
    · subst hother
      -- What is sent again starts at the request that is accepted next.
      obtain ⟨first, hfirst, hentries⟩ := h.sent.outbox
      have hentries := hentries.dropBelow (Nat.le_trans (Nat.le_of_eq shared.cursor) h.sent.le)
      rw [shared.cursor, Nat.max_eq_right hfirst] at hentries
      refine .requests (n.client.outbox.dropBelow s.requestCursor).entries ?_ ?_ ?_ ?_
      · exact fun request hmem => h.sent.genuine request (Outbox.mem_of_mem_dropBelow hmem)
      · intro name hbound
        refine ⟨⟨_, Nat.le_refl _, ?_, fun _ _ => rfl⟩, fun _ => ?_⟩
        · rw [shared.cursor]
          exact hentries
        · rw [arriving.own name hbound]
      · exact fun _ hdetached => absurd rfl hdetached
      · apply (Function.update_self ..).trans
        rw [silent]
        rfl
    · refine (h.outgoing other).elsewhere ?_ hother current rfl rfl rfl
      exact ⟨List.prefix_rfl, Nat.le_refl _, Nat.le_refl _, hlater⟩

theorem Invariant.responded (h : Invariant profile n) {sessionId : String} {s : RemoteSession}
    {response : Response} {responses : List Response} (status : n.client.status = .attached)
    (current : n.current = some channel) (mine : n.client.sessionId = some sessionId)
    (shared : Shared n sessionId s)
    (arriving : Arriving n channel sessionId s (response :: responses)) :
    Invariant profile ({ n with downlink := responses.map .response }.react profile
      (n.client.responded { response with payload := response.payload.transcribed })) := by
  obtain ⟨⟨stop, hstop, ⟨hid, hconsecutive⟩, hlast⟩, faithful, own⟩ := arriving
  have hfaithful := faithful response List.mem_cons_self
  have hid : response.id = n.client.responseCursor := hid
  have hresponded : { n with downlink := responses.map .response }.react profile
        (n.client.responded { response with payload := response.payload.transcribed }) =
      { n with
        downlink := responses.map .response
        client :=
          { n.client with
            responseCursor := n.client.responseCursor + 1
            outbox := n.client.outbox.dropBelow response.requestCursor }
        effects := n.effects ++ [.deliver response.payload.transcribed] } := by
    simp [react, Session.responded, hid, perform]
  have hnext : (n.responsesToClient.map Json.transcribed)[n.delivered.length]? =
      some response.payload.transcribed := by
    rw [← h.heard.cursor, ← hid, List.getElem?_map, responsesToClient, mine, Option.elim_some,
      hfaithful.payload]
    rfl
  rw [hresponded]
  refine { h with
    sent := h.sent.dropBelow (shared.cursor ▸ hfaithful.cursor) rfl rfl (Nat.le_succ _) rfl rfl
    heard := ⟨?_, ?_, ?_⟩
    fresh := by simp [mine]
    shared := ?_, outgoing := ?_
    phase := .attached channel sessionId s responses status current mine ?_ ?_ rfl }
  · rw [delivered_push (n := n) rfl, List.length_append, ← h.heard.cursor]
    rfl
  · intro expected received hmem
    rcases List.mem_append.mp hmem with hmem | hmem
    · exact h.heard.inOrder expected received hmem
    · simp at hmem
  · rw [delivered_push (n := n) rfl]
    exact push_prefix h.heard.delivered hnext
  · intro name hname
    obtain ⟨t, hshared⟩ := h.shared name hname
    obtain ⟨first, hfirst, hentries⟩ := hshared.outbox
    exact ⟨t, { hshared with outbox := ⟨first, Nat.le_succ_of_le hfirst, hentries⟩ }⟩
  · intro channel
    refine (h.outgoing channel).later ?_ (fun _ => rfl) rfl (fun _ => id) fun hcurrent => ?_
    · exact ⟨List.prefix_rfl, Nat.le_succ _, Nat.le_refl _, fun _ => id⟩
    · constructor
      · exact hcurrent
      · rfl
      · intro hconnected
        rw [status] at hconnected
        contradiction
      · exact fun _ => rfl
  · obtain ⟨first, hfirst, hentries⟩ := shared.outbox
    exact { shared with outbox := ⟨first, Nat.le_succ_of_le hfirst, hentries⟩ }
  · constructor
    · exact ⟨stop, hstop, hconsecutive, hlast⟩
    · exact fun other hmem => faithful other (List.mem_cons_of_mem _ hmem)
    · exact own

theorem Invariant.receive (h : Invariant profile n) :
    Invariant profile (n.step profile .receive) := by
  have hdrop {rest : List ServerMessage} {error : DecodeError}
      (hstatus : n.client.status ≠ .disconnected) :
      Invariant profile ({ n with downlink := rest }.react profile
        (n.client.dropConnection (.undecodable error))) := by
    rw [react_dropConnection (n := { n with downlink := rest }) hstatus]
    exact h.dropped rfl
  cases h.phase with
  | offline _ _ downlink | waiting _ _ _ _ downlink =>
      simp only [step, downlink]
      exact h
  | pending channel sessionId s responses status current mine shared arriving silent allSilent
      downlink =>
      rw [step_receive downlink]
      rcases Session.received_frame h.buffer (.inl status)
        (.success sessionId s.requestCursor profile) with hhandled | ⟨error, hdropped⟩
      · rw [hhandled]
        exact h.welcomed status current mine shared arriving silent
      · rw [hdropped]
        exact hdrop (by simp [status])
  | attached channel sessionId s responses status current mine shared arriving downlink =>
      cases responses with
      | nil =>
          simp only [step, downlink, List.map_nil]
          exact h
      | cons response rest =>
          rw [step_receive downlink]
          rcases Session.received_frame h.buffer (.inr status) (.response response) with
            hhandled | ⟨error, hdropped⟩
          · rw [hhandled]
            exact h.responded status current mine shared arriving
          · rw [hdropped]
            exact hdrop (by simp [status])

end ResumableSession.Network
