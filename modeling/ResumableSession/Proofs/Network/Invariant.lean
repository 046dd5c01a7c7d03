import ResumableSession.Proofs.Network.Basic
import ResumableSession.Proofs.Outbox.Consecutive
import ResumableSession.Proofs.Remote.Handling

/-!
What holds of a client and the other side after all moves.

`Invariant` ties together what both sides keep and what is under way between them.  The numbers
in the outboxes and on the connections leave no gap: what a bound channel still carries starts
at the request that is accepted next, and what is under way to the client starts at the response
that it waits for.

A channel carries either the opener of its connection, and then it is bound to nothing, or
requests, and then it is bound to no session but the client's (`Outgoing`).  The connection of
the client goes through four phases (`Phase`).
-/

namespace ResumableSession.Network

variable {profile : Profile} {n : Network} {sessionId : String} {s : RemoteSession}

/-! ## Prefixes -/

theorem getElem?_of_prefix {α : Type} {xs ys : List α} {i : Nat} {x : α} (h : xs <+: ys)
    (hx : xs[i]? = some x) : ys[i]? = some x := by
  obtain ⟨rest, rfl⟩ := h
  rw [List.getElem?_append_left (List.getElem?_eq_some_iff.mp hx).1, hx]

theorem push_prefix {α : Type} {xs ys : List α} {x : α} (h : xs <+: ys)
    (hx : ys[xs.length]? = some x) : xs ++ [x] <+: ys := by
  obtain ⟨rest, rfl⟩ := h
  rw [List.getElem?_append_right (Nat.le_refl _), Nat.sub_self] at hx
  cases rest with
  | nil => contradiction
  | cons y rest =>
      obtain rfl := Option.some.inj hx
      exact ⟨rest, List.append_assoc ..⟩

/-! ## Single requests and responses -/

/-- A request carries the payload of its number, and claims no response that is not there. -/
structure Genuine (requested : List Json) (responseCursor : Nat) (request : Request) : Prop where
  payload : requested[request.id - 1000]? = some request.payload
  cursor : request.responseCursor ≤ responseCursor

structure Faithful (responses : List Json) (requestCursor : Nat) (response : Response) :
    Prop where
  payload : responses[response.id]? = some response.payload
  cursor : response.requestCursor ≤ requestCursor

theorem Genuine.mono {requested more : List Json} {responseCursor later : Nat} {request : Request}
    (h : Genuine requested responseCursor request) (hrequested : requested <+: more)
    (hcursor : responseCursor ≤ later) : Genuine more later request where
  payload := getElem?_of_prefix hrequested h.payload
  cursor := Nat.le_trans h.cursor hcursor

theorem Faithful.mono {responses more : List Json} {requestCursor later : Nat}
    {response : Response} (h : Faithful responses requestCursor response)
    (hresponses : responses <+: more) (hcursor : requestCursor ≤ later) :
    Faithful more later response where
  payload := getElem?_of_prefix hresponses h.payload
  cursor := Nat.le_trans h.cursor hcursor

/-! ## Both directions -/

structure Sent (n : Network) : Prop where
  nextId : n.client.nextRequestId = 1000 + n.requested.length
  outbox : ∃ first ≤ 1000 + n.accepted.length,
    Consecutive first n.client.nextRequestId n.client.outbox.entries
  genuine : ∀ request ∈ n.client.outbox.entries,
    Genuine n.requested n.client.responseCursor request
  accepted : n.accepted <+: n.requested.zipIdx 1000

structure Heard (n : Network) : Prop where
  cursor : n.client.responseCursor = n.delivered.length
  inOrder : ∀ expected received, .report (.outOfOrder expected received) ∉ n.effects
  delivered : n.delivered <+: n.responsesToClient.map Json.transcribed

theorem Sent.le (h : Sent n) : 1000 + n.accepted.length ≤ n.client.nextRequestId := by
  have := h.accepted.length_le
  rw [List.length_zipIdx] at this
  rw [h.nextId]
  omega

theorem Heard.quiet {m : Network} (h : Heard n) {effects : List Effect}
    (hcursor : m.client.responseCursor = n.client.responseCursor)
    (heffects : m.effects = n.effects ++ effects) (hquiet : ∀ effect ∈ effects, effect.quiet)
    (hresponses : n.responsesToClient <+: m.responsesToClient) : Heard m where
  cursor := by rw [hcursor, h.cursor, delivered_append heffects hquiet]
  inOrder expected received hmem := by
    rw [heffects] at hmem
    rcases List.mem_append.mp hmem with hmem | hmem
    · exact h.inOrder expected received hmem
    · exact nomatch hquiet _ hmem
  delivered := by
    rw [delivered_append heffects hquiet]
    exact h.delivered.trans (hresponses.map _)

/-! ## Sessions -/

structure Kept (responses : List Json) (s : RemoteSession) : Prop where
  count : s.nextResponseId = responses.length
  outbox : ∃ first, Consecutive first s.nextResponseId s.outbox.entries
  faithful : ∀ response ∈ s.outbox.entries, Faithful responses s.requestCursor response

theorem Kept.new (profile : Profile) (channel : Nat) :
    Kept [] { profile, channel := some channel } where
  count := rfl
  outbox := ⟨0, rfl⟩
  faithful := by simp [Outbox.empty]

theorem Kept.release {responses : List Json} {t : RemoteSession} {threshold : Nat}
    (h : Kept responses s) (hthreshold : threshold ≤ s.nextResponseId)
    (hcount : t.nextResponseId = s.nextResponseId) (hcursor : s.requestCursor ≤ t.requestCursor)
    (houtbox : t.outbox = s.outbox.dropBelow threshold) : Kept responses t where
  count := hcount.trans h.count
  outbox := by
    obtain ⟨first, hentries⟩ := h.outbox
    rw [houtbox, hcount]
    exact ⟨_, hentries.dropBelow hthreshold⟩
  faithful response hmem := by
    rw [houtbox] at hmem
    exact (h.faithful response (Outbox.mem_of_mem_dropBelow hmem)).mono List.prefix_rfl hcursor

structure Shared (n : Network) (sessionId : String) (s : RemoteSession) : Prop where
  found : n.remote.session? sessionId = some s
  cursor : s.requestCursor = 1000 + n.accepted.length
  outbox : ∃ first ≤ n.client.responseCursor,
    Consecutive first s.nextResponseId s.outbox.entries

theorem Shared.eq (h : Shared n sessionId s) {t : RemoteSession}
    (found : n.remote.session? sessionId = some t) : t = s :=
  Option.some.inj (found.symm.trans h.found)

theorem Shared.release {m : Network} {t : RemoteSession} {threshold : Nat}
    (h : Shared n sessionId s) (hclient : m.client = n.client)
    (hthreshold : threshold ≤ n.client.responseCursor) (hcount : t.nextResponseId = s.nextResponseId)
    (houtbox : t.outbox = s.outbox.dropBelow threshold)
    (hle : n.client.responseCursor ≤ s.nextResponseId)
    (hfound : m.remote.session? sessionId = some t)
    (hcursor : t.requestCursor = 1000 + m.accepted.length) : Shared m sessionId t where
  found := hfound
  cursor := hcursor
  outbox := by
    obtain ⟨first, hfirst, hentries⟩ := h.outbox
    rw [houtbox, hcount, hclient]
    exact ⟨_, Nat.max_le.mpr ⟨hfirst, hthreshold⟩,
      hentries.dropBelow (Nat.le_trans hthreshold hle)⟩

/-! ## What is under way -/

inductive Opener (client : Session) : ClientMessage → Prop where
  | create : Opener client .createSession
  | attach (sessionId : String) (responseCursor : Nat)
      (mine : client.sessionId = some sessionId)
      (cursor : responseCursor ≤ client.responseCursor) :
      Opener client (.attach sessionId responseCursor)

/-- The requests on a channel that is bound to a session. -/
structure Ahead (n : Network) (channel : Nat) (sessionId : String) (requests : List Request) :
    Prop where
  consecutive : ∃ stop ≤ n.client.nextRequestId,
    Consecutive (1000 + n.accepted.length) stop requests ∧
      (n.current = some channel → n.client.status = .attached → stop = n.client.nextRequestId)
  mine : requests ≠ [] → n.client.sessionId = some sessionId

inductive Outgoing (n : Network) (channel : Nat) : Prop where
  | opening (tokens : List String) (opener : ClientMessage) (isOpener : Opener n.client opener)
      (free : n.remote.sessionOf? channel = none)
      (present : n.current = some channel →
        n.client.status = .connected ∧ opener = n.client.opener)
      (carried : n.uplink channel = tokens.map .auth ++ [opener])
  | requests (requests : List Request)
      (genuine : ∀ request ∈ requests,
        Genuine n.requested n.client.responseCursor request)
      (ahead : ∀ sessionId, n.remote.sessionOf? channel = some sessionId →
        Ahead n channel sessionId requests)
      (quiet : n.current = some channel → n.client.status ≠ .attached → requests = [])
      (carried : n.uplink channel = requests.map .request)

/-! ## Later states -/

structure Later (n m : Network) : Prop where
  requested : n.requested <+: m.requested
  cursor : n.client.responseCursor ≤ m.client.responseCursor
  nextId : n.client.nextRequestId ≤ m.client.nextRequestId
  sessionId : ∀ sessionId, n.client.sessionId = some sessionId →
    m.client.sessionId = some sessionId

structure GoesOn (n m : Network) (channel : Nat) : Prop where
  current : n.current = some channel
  status : m.client.status = n.client.status
  opener : n.client.status = .connected → m.client.opener = n.client.opener
  nextId : n.client.status = .attached → m.client.nextRequestId = n.client.nextRequestId

theorem Opener.later {n m : Network} {message : ClientMessage} (h : Opener n.client message)
    (hlater : Later n m) : Opener m.client message := by
  cases h with
  | create => exact .create
  | attach sessionId responseCursor mine cursor =>
      exact .attach _ _ (hlater.sessionId _ mine) (Nat.le_trans cursor hlater.cursor)

theorem Outgoing.later {n m : Network} {channel : Nat} (h : Outgoing n channel)
    (hlater : Later n m)
    (haccepted : n.remote.sessionOf? channel ≠ none → m.accepted = n.accepted)
    (hcarried : m.uplink channel = n.uplink channel)
    (hbound : ∀ name, m.remote.sessionOf? channel = some name →
      n.remote.sessionOf? channel = some name)
    (hpresent : m.current = some channel → GoesOn n m channel) : Outgoing m channel := by
  cases h with
  | opening tokens opener isOpener free present carried =>
      refine .opening tokens opener (isOpener.later hlater) ?_ ?_ (hcarried.trans carried)
      · cases hm : m.remote.sessionOf? channel with
        | none => rfl
        | some name =>
            have := hbound name hm
            rw [free] at this
            contradiction
      · intro hcurrent
        have goesOn := hpresent hcurrent
        obtain ⟨hstatus, hopener⟩ := present goesOn.current
        exact ⟨goesOn.status.trans hstatus, hopener.trans (goesOn.opener hstatus).symm⟩
  | requests requests genuine ahead quiet carried =>
      refine .requests requests ?_ ?_ ?_ (hcarried.trans carried)
      · exact fun request hmem => (genuine request hmem).mono hlater.requested hlater.cursor
      · intro sessionId hm
        -- A bound channel accepts from where it did before, so `accepted` must not have grown.
        have hn := hbound sessionId hm
        have this := ahead sessionId hn
        have haccepted := haccepted (hn ▸ nofun)
        obtain ⟨stop, hle, hconsecutive, hlast⟩ := this.consecutive
        refine ⟨⟨stop, Nat.le_trans hle hlater.nextId, haccepted ▸ hconsecutive, ?_⟩, ?_⟩
        · intro hcurrent hattached
          have goesOn := hpresent hcurrent
          have hattached := goesOn.status.symm.trans hattached
          exact (hlast goesOn.current hattached).trans (goesOn.nextId hattached).symm
        · exact fun hne => hlater.sessionId _ (this.mine hne)
      · intro hcurrent hstatus
        have goesOn := hpresent hcurrent
        exact quiet goesOn.current (goesOn.status ▸ hstatus)

theorem Outgoing.unmoved {n m : Network} {channel : Nat} (h : Outgoing n channel)
    (hclient : m.client = n.client) (hrequested : m.requested = n.requested)
    (hcurrent : m.current = n.current)
    (haccepted : n.remote.sessionOf? channel ≠ none → m.accepted = n.accepted)
    (hcarried : m.uplink channel = n.uplink channel)
    (hbound : ∀ name, m.remote.sessionOf? channel = some name →
      n.remote.sessionOf? channel = some name) : Outgoing m channel := by
  have hlater : Later n m := {
    requested := by simp [hrequested]
    cursor := by simp [hclient]
    nextId := by simp [hclient]
    sessionId := by simp [hclient] }
  refine h.later hlater haccepted hcarried hbound fun hpresent => ?_
  exact {
    current := hcurrent.symm.trans hpresent
    status := by simp [hclient]
    opener := by simp [hclient]
    nextId := by simp [hclient] }

theorem Outgoing.elsewhere {n m : Network} {channel other : Nat} {messages : List ClientMessage}
    (h : Outgoing n other) (hlater : Later n m) (hother : other ≠ channel)
    (hcurrent : m.current = some channel) (haccepted : m.accepted = n.accepted)
    (huplink : m.uplink = Function.update n.uplink channel messages)
    (hremote : m.remote = n.remote) : Outgoing m other := by
  refine h.later hlater (fun _ => haccepted) ?_ ?_ fun hpresent => ?_
  · rw [huplink, Function.update_of_ne hother]
  · rw [hremote]
    exact fun _ => id
  · rw [hcurrent] at hpresent
    exact absurd (Option.some.inj hpresent).symm hother

theorem Outgoing.silent {channel : Nat} (hsent : Sent n) (hcarried : n.uplink channel = [])
    (hpresent : n.current = some channel → n.client.status ≠ .attached) : Outgoing n channel := by
  refine .requests [] (fun _ => nofun) (fun name hbound => ?_) (fun _ _ => rfl) hcarried
  refine ⟨⟨_, hsent.le, rfl, fun hcurrent hattached => ?_⟩, fun hne => absurd rfl hne⟩
  exact absurd hattached (hpresent hcurrent)

structure Arriving (n : Network) (channel : Nat) (sessionId : String) (s : RemoteSession)
    (responses : List Response) : Prop where
  consecutive : ∃ stop ≤ s.nextResponseId,
    Consecutive n.client.responseCursor stop responses ∧
      (n.remote.sessionOf? channel = some sessionId → stop = s.nextResponseId)
  faithful : ∀ response ∈ responses,
    Faithful (n.responsesTo sessionId) s.requestCursor response
  own : ∀ name, n.remote.sessionOf? channel = some name → name = sessionId

inductive Phase (profile : Profile) (n : Network) : Prop where
  | offline (status : n.client.status = .disconnected) (current : n.current = none)
      (downlink : n.downlink = [])
  | waiting (channel : Nat)
      (status : n.client.status = .awaitingConnect ∨ n.client.status = .connected)
      (current : n.current = some channel) (free : n.remote.sessionOf? channel = none)
      (downlink : n.downlink = [])
  | pending (channel : Nat) (sessionId : String) (s : RemoteSession) (responses : List Response)
      (status : n.client.status = .connected) (current : n.current = some channel)
      (mine : n.client.sessionId = none ∨ n.client.sessionId = some sessionId)
      (shared : Shared n sessionId s) (arriving : Arriving n channel sessionId s responses)
      (silent : n.uplink channel = [])
      (allSilent : ∀ other, n.remote.sessionOf? other = some sessionId → n.uplink other = [])
      (downlink : n.downlink =
        .success sessionId s.requestCursor profile :: responses.map .response)
  | attached (channel : Nat) (sessionId : String) (s : RemoteSession)
      (responses : List Response)
      (status : n.client.status = .attached) (current : n.current = some channel)
      (mine : n.client.sessionId = some sessionId)
      (shared : Shared n sessionId s) (arriving : Arriving n channel sessionId s responses)
      (downlink : n.downlink = responses.map .response)

/-! ## The invariant -/

structure Invariant (profile : Profile) (n : Network) : Prop where
  bound : n.remote.Bound
  greeted : n.remote.Greeted profile
  buffer : n.client.buffer = .empty
  sent : Sent n
  heard : Heard n
  fresh : n.client.sessionId = none → n.accepted = [] ∧ n.client.responseCursor = 0
  shared : ∀ sessionId, n.client.sessionId = some sessionId → ∃ s, Shared n sessionId s
  kept : ∀ sessionId s, n.remote.session? sessionId = some s →
    Kept (n.responsesTo sessionId) s
  known : ∀ entry ∈ n.responded, (n.remote.session? entry.1).isSome
  outgoing : ∀ channel, Outgoing n channel
  opened : ∀ channel, n.current = some channel → channel ≤ n.remote.lastChannel
  unused : ∀ channel, n.remote.lastChannel < channel → n.uplink channel = []
  phase : Phase profile n

theorem Invariant.unused_update (h : Invariant profile n) {channel : Nat}
    (hcurrent : n.current = some channel) (messages : List ClientMessage) (other : Nat)
    (hlast : n.remote.lastChannel < other) : Function.update n.uplink channel messages other = [] := by
  have hopened := h.opened channel hcurrent
  rw [Function.update_of_ne (by omega)]
  exact h.unused other hlast

theorem Invariant.new (stem : String) (reconnectDelay : Nat) (authToken : Option String) :
    Invariant profile (.new stem reconnectDelay authToken) where
  bound := .new stem
  greeted := ⟨fun _ _ => nofun, fun _ _ => nofun⟩
  buffer := rfl
  sent := ⟨rfl, ⟨1000, Nat.le_refl _, rfl⟩, fun _ => nofun, List.nil_prefix⟩
  heard := ⟨rfl, fun _ _ => nofun, List.nil_prefix⟩
  fresh _ := ⟨rfl, rfl⟩
  shared _ := nofun
  kept _ _ := nofun
  known _ := nofun
  outgoing _ := .requests [] (fun _ => nofun) (fun _ => nofun) (fun _ _ => rfl) rfl
  opened _ := nofun
  unused _ _ := rfl
  phase := .offline rfl rfl rfl

end ResumableSession.Network
