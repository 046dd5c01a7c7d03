import ResumableSession.Proofs.Network.Arrival
import ResumableSession.Proofs.Network.Client
import ResumableSession.Proofs.Network.Response

/-!
What arrives, whatever happens to the connections.

Every move keeps the invariant, and so does every list of moves.  Requests are passed on in the
order of their numbers, none is left out and none is passed on twice, and the same holds of the
responses.  When nothing is under way on the connection of an attached client, everything has
arrived.
-/

namespace ResumableSession.Network

variable {profile : Profile} {n : Network} {channel : Nat} {sessionId : String}

/-! ## Runs -/

theorem Invariant.step (h : Invariant profile n) (move : Move) :
    Invariant profile (n.step profile move) := by
  cases move with
  | request payload => exact h.request payload
  | connect => exact h.connect
  | opened => exact h.hasOpened
  | arrive channel => exact h.arrive channel
  | receive => exact h.receive
  | lose cause => exact h.lose cause
  | close channel => exact h.close channel
  | respond sessionId payload => exact h.respond sessionId payload

theorem Invariant.run (h : Invariant profile n) (moves : List Move) :
    Invariant profile (n.run profile moves) := by
  induction moves generalizing n with
  | nil => exact h
  | cons move rest ih => exact ih (h.step move)

theorem invariant_run (stem : String) (reconnectDelay : Nat) (authToken : Option String)
    (profile : Profile) (moves : List Move) :
    Invariant profile ((Network.new stem reconnectDelay authToken).run profile moves) :=
  (Invariant.new stem reconnectDelay authToken).run moves

/-! ## Requests -/

theorem map_snd_of_prefix_zipIdx {α : Type} {pairs : List (α × Nat)} {items : List α}
    {first : Nat} (h : pairs <+: items.zipIdx first) :
    pairs.map Prod.snd = List.range' first pairs.length := by
  have hmap := h.map Prod.snd
  have hlength := h.length_le
  rw [List.zipIdx_map_snd] at hmap
  rw [List.length_zipIdx] at hlength
  rw [List.prefix_iff_eq_take.mp hmap, List.length_map,
    List.take_range'_of_length_ge hlength]

/-- The requests are passed on one after the other, starting with the first one, each with its
payload. -/
theorem accepted_consecutive (stem : String) (reconnectDelay : Nat) (authToken : Option String)
    (profile : Profile) (moves : List Move) :
    let n := (Network.new stem reconnectDelay authToken).run profile moves
    n.accepted.map Prod.snd = List.range' 1000 n.accepted.length ∧
      n.accepted <+: n.requested.zipIdx 1000 := by
  intro n
  have hprefix : n.accepted <+: n.requested.zipIdx 1000 :=
    (invariant_run stem reconnectDelay authToken profile moves).sent.accepted
  exact ⟨map_snd_of_prefix_zipIdx hprefix, hprefix⟩

/-! ## Responses -/

theorem map_transcribed {payloads : List Json} (hexact : ∀ payload ∈ payloads, payload.Exact) :
    payloads.map Json.transcribed = payloads := by
  induction payloads with
  | nil => rfl
  | cons payload rest ih =>
      have hfirst := Json.transcribed_of_exact (hexact payload List.mem_cons_self)
      have hrest := ih fun other hmem => hexact other (List.mem_cons_of_mem _ hmem)
      rw [List.map_cons, hfirst, hrest]

theorem Invariant.exists_kept (h : Invariant profile n) (hmine : n.client.sessionId = some sessionId)
    {id : Nat} {payload : Json} (hresponse : (n.responsesTo sessionId)[id]? = some payload)
    (hid : n.client.responseCursor ≤ id) :
    ∃ s, n.remote.session? sessionId = some s ∧
      ∃ response ∈ s.outbox.entries, response.id = id ∧ response.payload = payload := by
  obtain ⟨s, hshared⟩ := h.shared sessionId hmine
  have hkept := h.kept sessionId s hshared.found
  obtain ⟨first, hfirst, hentries⟩ := hshared.outbox
  have hlast : id < s.nextResponseId := by
    rw [hkept.count]
    exact (List.getElem?_eq_some_iff.mp hresponse).1
  obtain ⟨response, hmem, rfl⟩ := hentries.exists_mem (Nat.le_trans hfirst hid) hlast
  have hpayload := (hkept.faithful response hmem).payload
  exact ⟨s, hshared.found, response, hmem, rfl,
    Option.some.inj (hpayload.symm.trans hresponse)⟩

/-- The responses are delivered one after the other, as they are read from their written form.
None is let go of before it has been delivered. -/
theorem delivered_in_order (stem : String) (reconnectDelay : Nat) (authToken : Option String)
    (profile : Profile) (moves : List Move) :
    let n := (Network.new stem reconnectDelay authToken).run profile moves
    n.delivered <+: n.responsesToClient.map Json.transcribed ∧
      ((∀ payload ∈ n.responsesToClient, payload.Exact) →
        n.delivered <+: n.responsesToClient) ∧
      n.client.responseCursor = n.delivered.length ∧
      (∀ sessionId id payload, n.client.sessionId = some sessionId →
        (n.responsesTo sessionId)[id]? = some payload → n.client.responseCursor ≤ id →
          ∃ s, n.remote.session? sessionId = some s ∧
            ∃ response ∈ s.outbox.entries, response.id = id ∧ response.payload = payload) ∧
      ∀ expected received, .report (.outOfOrder expected received) ∉ n.effects := by
  intro n
  have h := invariant_run stem reconnectDelay authToken profile moves
  refine ⟨h.heard.delivered, fun hexact => ?_, h.heard.cursor, ?_, h.heard.inOrder⟩
  · have hdelivered := h.heard.delivered
    rwa [map_transcribed hexact] at hdelivered
  · intro sessionId id payload hmine hresponse hid
    exact h.exists_kept hmine hresponse hid

def oneDouble : Network :=
  (Network.new "s" 5000 none).run ⟨"u", "g"⟩
    [.connect, .opened, .arrive 1, .receive,
      .respond "s:1" (.number (.float 0.09090909090909091)), .receive]

set_option maxRecDepth 100000 in
/-- The double arrives as the one after it. -/
theorem oneDouble_delivered : ¬ oneDouble.delivered <+: oneDouble.responsesToClient := by
  intro h
  have hrendered := h.map Json.render
  have hother : ¬ oneDouble.delivered.map Json.render <+:
      oneDouble.responsesToClient.map Json.render := by
    decide +kernel
  exact hother hrendered

/-! ## Agreement -/

/-- An attached client, nothing under way on its connection, and the session bound to it. -/
structure Settled (n : Network) (channel : Nat) (sessionId : String) : Prop where
  attached : n.client.status = .attached
  current : n.current = some channel
  uplink : n.uplink channel = []
  downlink : n.downlink = []
  mine : n.client.sessionId = some sessionId
  bound : n.remote.channelOf? sessionId = some channel

instance (n : Network) (channel : Nat) (sessionId : String) :
    Decidable (n.Settled channel sessionId) :=
  decidable_of_iff
    (n.client.status = .attached ∧ n.current = some channel ∧ n.uplink channel = [] ∧
      n.downlink = [] ∧ n.client.sessionId = some sessionId ∧
      n.remote.channelOf? sessionId = some channel)
    ⟨fun ⟨attached, current, uplink, downlink, mine, bound⟩ =>
        ⟨attached, current, uplink, downlink, mine, bound⟩,
      fun ⟨attached, current, uplink, downlink, mine, bound⟩ =>
        ⟨attached, current, uplink, downlink, mine, bound⟩⟩

theorem Settled.accepted (hsettled : n.Settled channel sessionId) (h : Invariant profile n) :
    n.client.nextRequestId = 1000 + n.accepted.length := by
  have hbound := (h.bound.agree _ _).mpr hsettled.bound
  cases h.outgoing channel with
  | opening tokens opener isOpener free present carried =>
      rw [hbound] at free
      contradiction
  | requests requests genuine ahead quiet carried =>
      have hnone : requests = [] := by
        simpa using hsettled.uplink.symm.trans carried
      obtain ⟨stop, -, hconsecutive, hlast⟩ := (ahead sessionId hbound).consecutive
      have hlength := hconsecutive.length_eq
      have hstop := hlast hsettled.current hsettled.attached
      rw [hnone, List.length_nil] at hlength
      omega

theorem Settled.delivered (hsettled : n.Settled channel sessionId) (h : Invariant profile n) :
    n.client.responseCursor = (n.responsesTo sessionId).length := by
  cases h.phase with
  | offline status | waiting _ status | pending _ _ _ _ status =>
      have := hsettled.attached
      grind
  | attached present name s responses status current mine shared arriving downlink =>
      obtain rfl := Option.some.inj (current.symm.trans hsettled.current)
      obtain rfl := Option.some.inj (mine.symm.trans hsettled.mine)
      have hnone : responses = [] := by
        simpa using downlink.symm.trans hsettled.downlink
      obtain ⟨stop, -, hconsecutive, hlast⟩ := arriving.consecutive
      have hlength := hconsecutive.length_eq
      have hstop := hlast ((h.bound.agree _ _).mpr hsettled.bound)
      have hcount := (h.kept name s shared.found).count
      rw [hnone, List.length_nil] at hlength
      omega

/-- When nothing is under way, both sides agree on how far they have got. -/
theorem settled_agreement (stem : String) (reconnectDelay : Nat) (authToken : Option String)
    (profile : Profile) (moves : List Move) {channel : Nat} {sessionId : String}
    (hsettled : Settled ((Network.new stem reconnectDelay authToken).run profile moves)
      channel sessionId) :
    let n := (Network.new stem reconnectDelay authToken).run profile moves
    n.remote.requestCursor? sessionId = some n.client.nextRequestId ∧
      n.client.responseCursor = (n.responsesTo sessionId).length := by
  intro n
  have h := invariant_run stem reconnectDelay authToken profile moves
  obtain ⟨s, hshared⟩ := h.shared sessionId hsettled.mine
  constructor
  · rw [Remote.requestCursor?, hshared.found, hsettled.accepted h, ← hshared.cursor]
    rfl
  · exact hsettled.delivered h

/-- The client loses its connection with a request under way on it, which arrives after the
session has gone on. -/
def oneCut : List Move :=
  [.connect, .opened, .arrive 1, .receive, .request (.string "a"), .lose .errored,
    .request (.string "b"), .respond "s:1" (.bool true), .connect, .opened, .arrive 2, .receive,
    .receive, .arrive 1, .arrive 2, .arrive 2, .respond "s:1" .null, .receive]

set_option maxRecDepth 100000 in
theorem oneCut_agreement :
    let n := (Network.new "s" 5000 none).run ⟨"u", "g"⟩ oneCut
    Settled n 2 "s:1" ∧ n.remote.requestCursor? "s:1" = some n.client.nextRequestId ∧
      n.client.responseCursor = (n.responsesTo "s:1").length := by
  have hsettled : Settled ((Network.new "s" 5000 none).run ⟨"u", "g"⟩ oneCut) 2 "s:1" := by
    decide +kernel
  exact ⟨hsettled, settled_agreement "s" 5000 none ⟨"u", "g"⟩ oneCut hsettled⟩

end ResumableSession.Network
