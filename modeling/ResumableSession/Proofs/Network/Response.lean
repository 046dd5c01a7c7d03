import ResumableSession.Proofs.Network.Remote

/-!
The invariant and responses that are given to the other side.

A response for the session of the client is sent at once if the session is bound, and otherwise
it stays in the outbox.  One for another session is nothing to the client.
-/

namespace ResumableSession.Network

variable {profile : Profile} {n m : Network} {channel : Nat} {sessionId : String}
  {s t : RemoteSession}

/-! ## Responses -/

def nextResponse (payload : Json) (s : RemoteSession) : Response :=
  ⟨s.nextResponseId, s.requestCursor, payload⟩

def said (response : Response) (s : RemoteSession) : RemoteSession :=
  { s with nextResponseId := s.nextResponseId + 1, outbox := s.outbox.push response }

def answered (sessionId : String) (s : RemoteSession) (payload : Json) (n : Network) : Network :=
  { n with responded := n.responded ++ [(sessionId, payload)] }.act
    (s.channel.toList.map fun channel => .send channel (.response (nextResponse payload s)))
    (n.remote.modifySession sessionId (said (nextResponse payload s)))

theorem step_respond (found : n.remote.session? sessionId = some s) (payload : Json) :
    n.step profile (.respond sessionId payload) = n.answered sessionId s payload := by
  simp only [step, Remote.respond, found]
  rfl

theorem step_respond_unknown (missing : n.remote.session? sessionId = none) (payload : Json) :
    n.step profile (.respond sessionId payload) = n := by
  simp only [step, Remote.respond, missing]

theorem responsesTo_answered (payload : Json) (name : String) :
    (n.answered sessionId s payload).responsesTo name =
      if name = sessionId then n.responsesTo name ++ [payload] else n.responsesTo name := by
  by_cases hname : name = sessionId
  · simp [responsesTo, answered, act, hname]
  · simp [responsesTo, answered, act, hname, Ne.symm hname]

theorem prefix_answered (payload : Json) (name : String) :
    n.responsesTo name <+: (n.answered sessionId s payload).responsesTo name := by
  rw [responsesTo_answered]
  split
  · exact List.prefix_append ..
  · exact List.prefix_rfl

theorem session?_answered (found : n.remote.session? sessionId = some s) (payload : Json)
    (name : String) :
    (n.answered sessionId s payload).remote.session? name =
      if name = sessionId then some (said (nextResponse payload s) s)
      else n.remote.session? name :=
  Remote.session?_modifySession_of_session found _

theorem downlink_answered (hcurrent : n.current = some channel) (payload : Json) :
    (n.answered sessionId s payload).downlink =
      n.downlink ++
        if s.channel = some channel then [.response (nextResponse payload s)] else [] := by
  cases hc : s.channel with
  | none => simp [answered, act, hc]
  | some old =>
      by_cases hold : channel = old
      · simp [answered, act, hc, reaching, hcurrent, hold]
      · simp [answered, act, hc, reaching, hcurrent, hold, Ne.symm hold]

theorem Kept.said {responses : List Json} (h : Kept responses s) (payload : Json) :
    Kept (responses ++ [payload]) (said (nextResponse payload s) s) where
  count := by
    rw [List.length_append, ← h.count]
    rfl
  outbox := by
    obtain ⟨first, hentries⟩ := h.outbox
    exact ⟨first, hentries.push rfl⟩
  faithful response hmem := by
    rcases List.mem_append.mp hmem with hmem | hmem
    · exact (h.faithful response hmem).mono (List.prefix_append ..) (Nat.le_refl _)
    · obtain rfl := List.mem_singleton.mp hmem
      constructor
      · rw [nextResponse, h.count, List.getElem?_concat_length]
      · exact Nat.le_refl _

theorem Shared.answered {name : String} (h : Shared n name t)
    (found : n.remote.session? sessionId = some s) (payload : Json) :
    Shared (n.answered sessionId s payload) name
      (if name = sessionId then said (nextResponse payload s) s else t) := by
  have haccepted : (n.answered sessionId s payload).accepted = n.accepted :=
    accepted_append rfl (by simp)
  have hsession := session?_answered found payload name
  by_cases hname : name = sessionId
  · subst hname
    obtain rfl := h.eq found
    obtain ⟨first, hfirst, hentries⟩ := h.outbox
    rw [if_pos rfl] at hsession ⊢
    exact ⟨hsession, haccepted ▸ h.cursor, first, hfirst, hentries.push rfl⟩
  · rw [if_neg hname] at hsession ⊢
    exact ⟨hsession.trans h.found, haccepted ▸ h.cursor, h.outbox⟩

theorem Arriving.answered {name : String} {responses : List Response}
    (h : Arriving n channel name t responses) (hbound : n.remote.Bound) (hshared : Shared n name t)
    (hkept : Kept (n.responsesTo name) t) (current : n.current = some channel)
    (found : n.remote.session? sessionId = some s) (payload : Json) :
    ∃ u more, Shared (n.answered sessionId s payload) name u ∧
      u.requestCursor = t.requestCursor ∧
      Arriving (n.answered sessionId s payload) channel name u (responses ++ more) ∧
      (n.answered sessionId s payload).downlink = n.downlink ++ more.map .response := by
  obtain ⟨⟨stop, hstop, hconsecutive, hlast⟩, faithful, own⟩ := h
  have hu := hshared.answered found payload
  have hhere : n.remote.sessionOf? channel = some sessionId ↔ s.channel = some channel := by
    rw [hbound.agree, Remote.channelOf?_of_session found]
  have faithful (response : Response) (hmem : response ∈ responses) :
      Faithful ((n.answered sessionId s payload).responsesTo name) t.requestCursor response :=
    (faithful response hmem).mono (prefix_answered payload name) (Nat.le_refl _)
  by_cases hname : name = sessionId
  · subst hname
    obtain rfl := hshared.eq found
    rw [if_pos rfl] at hu
    by_cases hc : s.channel = some channel
    · obtain rfl := hlast (hhere.mpr hc)
      refine ⟨_, [nextResponse payload s], hu, rfl, ⟨?_, ?_, own⟩, ?_⟩
      · exact ⟨_, Nat.le_refl _, hconsecutive.push rfl, fun _ => rfl⟩
      · intro response hmem
        rcases List.mem_append.mp hmem with hmem | hmem
        · exact faithful response hmem
        · rw [responsesTo_answered, if_pos rfl]
          exact (hkept.said payload).faithful response (List.mem_append_right _ hmem)
      · rw [downlink_answered current, if_pos hc]
        rfl
    · refine ⟨_, [], hu, rfl, ⟨⟨stop, Nat.le_succ_of_le hstop, ?_, ?_⟩, ?_, own⟩, ?_⟩
      · rwa [List.append_nil]
      · exact fun hbound => absurd (hhere.mp hbound) hc
      · rwa [List.append_nil]
      · rw [downlink_answered current, if_neg hc]
        rfl
  · rw [if_neg hname] at hu
    have hc : s.channel ≠ some channel := fun hc => hname (own sessionId (hhere.mpr hc)).symm
    refine ⟨t, [], hu, rfl, ⟨⟨stop, hstop, ?_, hlast⟩, ?_, own⟩, ?_⟩
    · rwa [List.append_nil]
    · rwa [List.append_nil]
    · rw [downlink_answered current, if_neg hc]
      rfl

theorem Phase.answered (h : Phase profile n) (hbound : n.remote.Bound)
    (hkept : ∀ name t, n.remote.session? name = some t → Kept (n.responsesTo name) t)
    (found : n.remote.session? sessionId = some s) (payload : Json) :
    Phase profile (n.answered sessionId s payload) := by
  cases h with
  | offline status current downlink =>
      refine .offline status current ?_
      have hlost : (s.channel.toList.map fun channel =>
          Action.send channel (.response (nextResponse payload s))).filterMap
            (reaching n.current) = [] := by
        rw [current]
        cases s.channel <;> rfl
      simp only [Network.answered, act, downlink, hlost, List.append_nil]
  | waiting channel status current free downlink =>
      refine .waiting channel status current free ?_
      have hc : s.channel ≠ some channel := by
        intro hc
        rw [← Remote.channelOf?_of_session found, ← hbound.agree, free] at hc
        contradiction
      rw [downlink_answered current, if_neg hc, downlink]
      rfl
  | pending channel name t responses status current mine shared arriving silent allSilent
      downlink =>
      obtain ⟨u, more, hu, hcursor, harriving, hdownlink⟩ :=
        arriving.answered hbound shared (hkept _ _ shared.found) current found payload
      refine .pending channel name u (responses ++ more) status current mine hu harriving silent
        allSilent ?_
      rw [hdownlink, downlink, hcursor, List.map_append]
      rfl
  | attached channel name t responses status current mine shared arriving downlink =>
      obtain ⟨u, more, hu, -, harriving, hdownlink⟩ :=
        arriving.answered hbound shared (hkept _ _ shared.found) current found payload
      refine .attached channel name u (responses ++ more) status current mine hu harriving ?_
      rw [hdownlink, downlink, List.map_append]

theorem Invariant.respond (h : Invariant profile n) (sessionId : String) (payload : Json) :
    Invariant profile (n.step profile (.respond sessionId payload)) := by
  cases found : n.remote.session? sessionId with
  | none =>
      rw [step_respond_unknown found]
      exact h
  | some s =>
      rw [step_respond found]
      have haccepted : (n.answered sessionId s payload).accepted = n.accepted :=
        accepted_append rfl (by simp)
      refine { h with
        bound := h.bound.modifySession fun _ => rfl
        greeted := h.greeted.modifySession fun _ => rfl
        sent := h.sent.keep rfl rfl haccepted
        heard := h.heard.quiet rfl (List.append_nil _).symm (fun _ => nofun) ?_
        fresh := fun hnone => haccepted ▸ h.fresh hnone
        shared := ?_, kept := ?_, known := ?_, outgoing := ?_
        phase := h.phase.answered h.bound h.kept found payload }
      · change n.client.sessionId.elim [] _ <+: n.client.sessionId.elim [] _
        cases n.client.sessionId with
        | none => exact List.prefix_rfl
        | some name => exact prefix_answered payload name
      · intro name hname
        obtain ⟨t, ht⟩ := h.shared name hname
        exact ⟨_, ht.answered found payload⟩
      · intro name t ht
        rw [session?_answered found] at ht
        rw [responsesTo_answered]
        split at ht
        · next he =>
            obtain rfl := Option.some.inj ht
            rw [if_pos he, he]
            exact (h.kept sessionId s found).said payload
        · next hne =>
            rw [if_neg hne]
            exact h.kept name t ht
      · intro entry hmem
        rw [session?_answered found]
        split
        · rfl
        · next hne =>
            rcases List.mem_append.mp hmem with hmem | hmem
            · exact h.known entry hmem
            · exact absurd (congrArg Prod.fst (List.mem_singleton.mp hmem)) hne
      · exact fun other =>
          (h.outgoing other).unmoved rfl rfl rfl (fun _ => haccepted) rfl fun _ => id

end ResumableSession.Network
