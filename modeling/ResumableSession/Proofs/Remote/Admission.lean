import ResumableSession.Proofs.Remote.Isolation

/-!
Which requests are delivered.

A session counts: the request that it accepts next is always the first one that was not delivered
on its behalf yet.  So the deliveries have the numbers 1000, 1001 and so on, whatever was asked in
between.  The count is stamped on every response, and it never falls.
-/

namespace ResumableSession.Remote

/-! ## Deliveries of a session -/

def Action.delivery? (sessionId : String) : Action → Option (Nat × Json)
  | .deliver name id payload => if name = sessionId then some (id, payload) else none
  | .send _ _ | .shutdown _ => none

def Turn.deliveries (sessionId : String) (t : Turn) : List (Nat × Json) :=
  t.actions.filterMap (Action.delivery? sessionId)

/-- The numbers and the payloads of the requests that were delivered on behalf of a session. -/
def deliveriesOf (sessionId : String) (turns : List Turn) : List (Nat × Json) :=
  turns.flatMap (Turn.deliveries sessionId)

variable {turns : List Turn} {t : Turn} {r : Remote} {call : Call} {answer : Answer}
  {sessionId : String} {s u : RemoteSession}

theorem deliveriesOf_push :
    deliveriesOf sessionId (turns ++ [t]) =
      deliveriesOf sessionId turns ++ t.deliveries sessionId := by
  simp [deliveriesOf]

/-! ## One turn -/

theorem Outcome.deliveries (houtcome : Outcome r call answer) (sessionId : String) :
    Turn.deliveries sessionId ⟨r, call, answer.1⟩ = [] ∨
      ∃ s payload, r.session? sessionId = some s ∧
        Turn.deliveries sessionId ⟨r, call, answer.1⟩ = [(s.requestCursor, payload)] := by
  cases houtcome with
  | accepted channel name request s here found next =>
      by_cases he : name = sessionId
      · subst he
        refine .inr ⟨s, request.payload, found, ?_⟩
        simp [Turn.deliveries, Turn.actions, Action.delivery?, next]
      · exact .inl (by simp [Turn.deliveries, Turn.actions, Action.delivery?, he])
  | _ => exact .inl (by simp [Turn.deliveries, Turn.actions, Action.delivery?, resumption])

theorem requestCursor_of_changed {name : String} {after : RemoteSession}
    (found : r.session? name = some s)
    (hu : (if sessionId = name then some after else r.session? sessionId) = some u)
    (hsame : after.requestCursor = s.requestCursor) :
    ∃ before, r.session? sessionId = some before ∧ u.requestCursor = before.requestCursor := by
  split at hu
  · next he =>
      obtain rfl := Option.some.inj hu
      exact ⟨s, he ▸ found, hsame⟩
  · exact ⟨u, hu, rfl⟩

theorem Outcome.requestCursor (houtcome : Outcome r call answer) (hbound : r.Bound)
    (hu : answer.2.session? sessionId = some u) :
    (sessionId = r.nextName ∧ u.requestCursor = 1000) ∨
      ∃ s, r.session? sessionId = some s ∧
        u.requestCursor =
          s.requestCursor + (Turn.deliveries sessionId ⟨r, call, answer.1⟩).length := by
  cases houtcome with
  | opened | refused | ignored | greeted | denied | unheard | absent =>
      exact .inr ⟨u, hu, rfl⟩
  | closed channel =>
      rw [session?_closeChannel hbound] at hu
      obtain ⟨s, hs, rfl⟩ := Option.map_eq_some_iff.mp hu
      refine .inr ⟨s, hs, ?_⟩
      unfold detach
      split <;> rfl
  | created channel profile here =>
      rw [session?_created] at hu
      split at hu
      · next he =>
          obtain rfl := Option.some.inj hu
          exact .inl ⟨he, rfl⟩
      · exact .inr ⟨u, hu, rfl⟩
  | resumed channel name responseCursor s here found =>
      have hnone : Turn.deliveries sessionId ⟨r, .handle channel (.attach name responseCursor),
          .ok (s.channel.toList.map .shutdown ++
            resumption channel name (Remote.resumed channel responseCursor s))⟩ = [] := by
        simp [Turn.deliveries, Turn.actions, Action.delivery?, resumption]
      rw [session?_moved found] at hu
      rw [hnone]
      exact .inr (requestCursor_of_changed found hu rfl)
  | accepted channel name request s here found next =>
      rw [session?_modifySession_of_session found] at hu
      split at hu
      · next he =>
          obtain rfl := Option.some.inj hu
          refine .inr ⟨s, he ▸ found, ?_⟩
          simp [Turn.deliveries, Turn.actions, Action.delivery?, he, accept]
      · next hne =>
          refine .inr ⟨u, hu, ?_⟩
          simp [Turn.deliveries, Turn.actions, Action.delivery?, Ne.symm hne]
  | repeated channel name request s here found =>
      rw [session?_modifySession_of_session found] at hu
      exact .inr (requestCursor_of_changed found hu rfl)
  | responded name payload s response found numbered =>
      have hnone : Turn.deliveries sessionId ⟨r, .respond name payload,
          .ok (s.channel.toList.map fun channel => .send channel (.response response))⟩ = [] := by
        simp [Turn.deliveries, Turn.actions, Action.delivery?]
      rw [session?_modifySession_of_session found] at hu
      rw [hnone]
      exact .inr (requestCursor_of_changed found hu rfl)
  | dropped name s found =>
      rw [session?_dropped] at hu
      split at hu
      · contradiction
      · refine .inr ⟨u, hu, ?_⟩
        simp [Turn.deliveries, Turn.actions, Action.delivery?]

/-! ## The count -/

/-- A session counts its deliveries, and stamps the count on its responses. -/
structure Counted (turns : List Turn) (r : Remote) (sessionId : String) : Prop where
  ids : (deliveriesOf sessionId turns).map Prod.fst =
    List.range' 1000 (deliveriesOf sessionId turns).length
  due : ∀ s, r.session? sessionId = some s →
    s.requestCursor = 1000 + (deliveriesOf sessionId turns).length
  unissued : ¬ Issued sessionId r → deliveriesOf sessionId turns = []
  stamped : ∀ response ∈ responsesOf sessionId turns,
    response.requestCursor ≤ 1000 + (deliveriesOf sessionId turns).length
  rising : (responsesOf sessionId turns).Pairwise fun earlier later =>
    earlier.requestCursor ≤ later.requestCursor

theorem Counted.new (stem sessionId : String) : Counted [] (Remote.new stem) sessionId where
  ids := rfl
  due := nofun
  unissued _ := rfl
  stamped := nofun
  rising := .nil

theorem Outcome.deliveries_absent (houtcome : Outcome r call answer)
    (hnone : r.session? sessionId = none) :
    Turn.deliveries sessionId ⟨r, call, answer.1⟩ = [] := by
  rcases houtcome.deliveries sessionId with hquiet | ⟨s, _, found, -⟩
  · exact hquiet
  · exact nomatch hnone.symm.trans found

theorem Counted.ids_turn (h : Counted turns r sessionId) (houtcome : Outcome r call answer) :
    (deliveriesOf sessionId (turns ++ [⟨r, call, answer.1⟩])).map Prod.fst =
      List.range' 1000 (deliveriesOf sessionId (turns ++ [⟨r, call, answer.1⟩])).length := by
  rw [deliveriesOf_push]
  rcases houtcome.deliveries sessionId with hquiet | ⟨s, payload, found, hdelivered⟩
  · rw [hquiet, List.append_nil]
    exact h.ids
  · rw [hdelivered, List.map_append, h.ids, List.length_append, h.due s found]
    simp [List.range'_concat]

theorem Counted.due_turn (h : Counted turns r sessionId) (houtcome : Outcome r call answer)
    (hbound : r.Bound) (hu : answer.2.session? sessionId = some u) :
    u.requestCursor =
      1000 + (deliveriesOf sessionId (turns ++ [⟨r, call, answer.1⟩])).length := by
  rw [deliveriesOf_push, List.length_append]
  rcases houtcome.requestCursor hbound hu with ⟨rfl, hfirst⟩ | ⟨s, found, hcursor⟩
  · -- A new name was never delivered to.
    rw [hfirst, h.unissued (not_issued_nextName r),
      houtcome.deliveries_absent hbound.session?_nextName]
    rfl
  · have := h.due s found
    omega

theorem Counted.unissued_turn (h : Counted turns r sessionId) (houtcome : Outcome r call answer)
    (hbound : r.Bound) (hnew : ¬ Issued sessionId answer.2) :
    deliveriesOf sessionId (turns ++ [⟨r, call, answer.1⟩]) = [] := by
  have hbefore : ¬ Issued sessionId r := fun hissued => hnew (houtcome.issued hissued)
  have habsent : r.session? sessionId = none := by
    cases hs : r.session? sessionId with
    | none => rfl
    | some s => exact absurd (hbound.named sessionId s hs) hbefore
  rw [deliveriesOf_push, h.unissued hbefore, houtcome.deliveries_absent habsent]
  rfl

theorem length_deliveriesOf_le :
    (deliveriesOf sessionId turns).length ≤ (deliveriesOf sessionId (turns ++ [t])).length := by
  rw [deliveriesOf_push, List.length_append]
  exact Nat.le_add_right _ _

theorem Counted.responses_turn (h : Counted turns r sessionId) (ht : t.before = r) :
    (∀ response ∈ responsesOf sessionId (turns ++ [t]),
      response.requestCursor ≤ 1000 + (deliveriesOf sessionId (turns ++ [t])).length) ∧
    (responsesOf sessionId (turns ++ [t])).Pairwise fun earlier later =>
      earlier.requestCursor ≤ later.requestCursor := by
  have hlength : (deliveriesOf sessionId turns).length ≤
      (deliveriesOf sessionId (turns ++ [t])).length := length_deliveriesOf_le
  have hold : ∀ response ∈ responsesOf sessionId turns,
      response.requestCursor ≤ 1000 + (deliveriesOf sessionId (turns ++ [t])).length := by
    intro response hmem
    have := h.stamped response hmem
    omega
  cases hsaid : t.said? sessionId with
  | none =>
      rw [responsesOf_silent hsaid]
      exact ⟨hold, h.rising⟩
  | some said =>
      obtain ⟨s, payload, -, found, rfl⟩ := said?_eq_some hsaid
      rw [ht] at found
      have hdue := h.due s found
      rw [responsesOf_said turns hsaid]
      constructor
      · intro response hmem
        rcases List.mem_append.mp hmem with hmem | hmem
        · exact hold response hmem
        · obtain rfl := List.mem_singleton.mp hmem
          change s.requestCursor ≤ _
          omega
      · refine List.pairwise_append.mpr ⟨h.rising, List.pairwise_singleton .., ?_⟩
        intro earlier hearlier later hlater
        obtain rfl := List.mem_singleton.mp hlater
        have := h.stamped earlier hearlier
        change earlier.requestCursor ≤ s.requestCursor
        omega

theorem Counted.turn (h : Counted turns r sessionId) (houtcome : Outcome r call answer)
    (hbound : r.Bound) : Counted (turns ++ [⟨r, call, answer.1⟩]) answer.2 sessionId where
  ids := h.ids_turn houtcome
  due _ hu := h.due_turn houtcome hbound hu
  unissued := h.unissued_turn houtcome hbound
  stamped := (h.responses_turn rfl).1
  rising := (h.responses_turn rfl).2

theorem History.counted {stem : String} (h : History stem turns r) (sessionId : String) :
    Counted turns r sessionId := by
  induction h with
  | new => exact .new stem sessionId
  | @turn turns r earlier call ih =>
      exact ih.turn (perform_outcome earlier.sound.toBound earlier.sound.staged call)
        earlier.sound.toBound

/-! ## What it comes to -/

theorem Outcome.delivered {id : Nat} {payload : Json} (houtcome : Outcome r call answer)
    (hmem : .deliver sessionId id payload ∈ Turn.actions ⟨r, call, answer.1⟩) :
    answer.1 = .ok [.deliver sessionId id payload] ∧ r.requestCursor? sessionId = some id ∧
      ∃ channel responseCursor,
        call = .handle channel (.request ⟨id, responseCursor, payload⟩) ∧
          r.sessionOf? channel = some sessionId := by
  cases houtcome with
  | opened | closed | refused | ignored | greeted | repeated | unheard | absent => contradiction
  | created | denied | responded | dropped | resumed => simp [Turn.actions, resumption] at hmem
  | accepted channel name request s here found next =>
      obtain ⟨rfl, rfl, rfl⟩ := Action.deliver.inj (List.mem_singleton.mp hmem)
      refine ⟨rfl, ?_, channel, request.responseCursor, rfl, sessionOf?_of_slot here⟩
      rw [requestCursor?, found, Option.map_some, next]

theorem Sound.handle_request (h : r.Sound) {channel : Nat} {request : Request}
    (hchannel : r.channelOf? sessionId = some channel) :
    (r.handle channel (.request request)).1 =
      .ok (if r.requestCursor? sessionId = some request.id
        then [.deliver sessionId request.id request.payload] else []) := by
  obtain ⟨s, found, here⟩ := channelOf?_eq_some.mp hchannel
  have hslot := h.bound_slot found here
  have hcursor : r.requestCursor? sessionId = some s.requestCursor := by
    rw [requestCursor?, found, Option.map_some]
  have houtcome := handle_outcome h.toBound h.staged channel (.request request)
  generalize r.handle channel (.request request) = answer at houtcome
  cases houtcome with
  | refused _ _ error known free =>
      have hfree := free request rfl
      rw [sessionOf?_of_slot hslot] at hfree
      contradiction
  | ignored _ _ profile there =>
      rw [hslot] at there
      simp at there
  | accepted _ name _ t there same next =>
      obtain rfl : sessionId = name :=
        Option.some.inj ((sessionOf?_of_slot hslot).symm.trans (sessionOf?_of_slot there))
      obtain rfl := Option.some.inj (found.symm.trans same)
      rw [hcursor, if_pos (congrArg some next.symm)]
  | repeated _ name _ t there same other =>
      obtain rfl : sessionId = name :=
        Option.some.inj ((sessionOf?_of_slot hslot).symm.trans (sessionOf?_of_slot there))
      obtain rfl := Option.some.inj (found.symm.trans same)
      rw [hcursor, if_neg fun he => other (Option.some.inj he).symm]

theorem Outcome.requestCursor?_eq {cursor later : Nat} (houtcome : Outcome r call answer)
    (hbound : r.Bound) (hbefore : r.requestCursor? sessionId = some cursor)
    (hafter : answer.2.requestCursor? sessionId = some later) :
    later = cursor + (Turn.deliveries sessionId ⟨r, call, answer.1⟩).length := by
  obtain ⟨s, found, rfl⟩ := Option.map_eq_some_iff.mp hbefore
  obtain ⟨u, hu, rfl⟩ := Option.map_eq_some_iff.mp hafter
  rcases houtcome.requestCursor hbound hu with ⟨rfl, -⟩ | ⟨old, hold, hcursor⟩
  · exact nomatch found.symm.trans hbound.session?_nextName
  · obtain rfl := Option.some.inj (found.symm.trans hold)
    exact hcursor

/-- The requests of a session are delivered in their order, none twice and none left out, whatever
is asked.  A request that is due on the channel of its session is delivered, and every other one
is passed over.  The cursor of the session says how many were delivered: no other call changes
it, and on the responses it never falls. -/
theorem requests_admitted (stem : String) (calls : List Call) (sessionId : String) :
    let turns := (Remote.new stem).turns calls
    let r := (Remote.new stem).run calls
    let deliveries := deliveriesOf sessionId turns
    deliveries.map Prod.fst = List.range' 1000 deliveries.length ∧
    (∀ cursor, r.requestCursor? sessionId = some cursor → cursor = 1000 + deliveries.length) ∧
    (∀ t ∈ turns, ∀ id payload, .deliver sessionId id payload ∈ t.actions →
      t.result = .ok [.deliver sessionId id payload] ∧
      t.before.requestCursor? sessionId = some id ∧
      ∃ channel responseCursor,
        t.call = .handle channel (.request ⟨id, responseCursor, payload⟩) ∧
          t.before.sessionOf? channel = some sessionId) ∧
    (∀ channel request, r.channelOf? sessionId = some channel →
      (r.handle channel (.request request)).1 =
        .ok (if r.requestCursor? sessionId = some request.id
          then [.deliver sessionId request.id request.payload] else [])) ∧
    (∀ call cursor later, r.requestCursor? sessionId = some cursor →
      (r.perform call).2.requestCursor? sessionId = some later →
        later = cursor + ((r.turn call).deliveries sessionId).length) ∧
    ((responsesOf sessionId turns).Pairwise fun earlier later =>
      earlier.requestCursor ≤ later.requestCursor) ∧
    ∀ t ∈ turns, ∀ channel response, .send channel (.response response) ∈ t.actions →
      ∃ name, t.call.session? = some name ∧ response ∈ responsesOf name turns := by
  intro turns r deliveries
  have h : History stem turns r := history_run stem calls
  have hcounted := h.counted sessionId
  refine ⟨hcounted.ids, ?_, ?_, fun _ _ => h.sound.handle_request, ?_, hcounted.rising, ?_⟩
  · intro cursor hcursor
    obtain ⟨s, found, rfl⟩ := Option.map_eq_some_iff.mp hcursor
    exact hcounted.due s found
  · intro t ht id payload hmem
    obtain ⟨_, _, -, -, -, houtcome⟩ := h.of_mem ht
    exact houtcome.delivered hmem
  · intro call cursor later hbefore hafter
    exact (perform_outcome h.sound.toBound h.sound.staged call).requestCursor?_eq
      h.sound.toBound hbefore hafter
  · intro t ht channel response hmem
    obtain ⟨_, _, hprefix, -, hafter, houtcome⟩ := h.of_mem ht
    obtain ⟨name, s, hcall, found, -, hkept⟩ := houtcome.response_kept hmem
    exact ⟨name, hcall, (responsesOf_mono hprefix).mem ((hafter.told found).suffix.mem hkept)⟩

/-- An early request, one that is due, its duplicate on another channel, and the next one. -/
def outOfTurn : List Call :=
  [.openChannel, .handle 1 (.hello ⟨"u", "g"⟩), .handle 1 .createSession,
    .handle 1 (.request ⟨1001, 0, .null⟩), .handle 1 (.request ⟨1000, 0, .bool true⟩),
    .respond "s:1" .null, .openChannel, .handle 2 (.hello ⟨"u", "g"⟩),
    .handle 2 (.attach "s:1" 0), .handle 2 (.request ⟨1000, 1, .bool true⟩)]

theorem outOfTurn_admitted :
    let turns := (Remote.new "s").turns outOfTurn
    let r := (Remote.new "s").run outOfTurn
    deliveriesOf "s:1" turns = [(1000, .bool true)] ∧ r.requestCursor? "s:1" = some 1001 ∧
      r.channelOf? "s:1" = some 2 ∧
      (r.handle 2 (.request ⟨1000, 1, .null⟩)).1 = .ok [] ∧
      (r.handle 2 (.request ⟨1001, 1, .null⟩)).1 = .ok [.deliver "s:1" 1001 .null] := by
  intro turns r
  have hcursor : r.requestCursor? "s:1" = some 1001 := by rfl
  have hchannel : r.channelOf? "s:1" = some 2 := by rfl
  obtain ⟨-, -, -, hrequests, -⟩ := requests_admitted "s" outOfTurn "s:1"
  refine ⟨by rfl, hcursor, hchannel, ?_, ?_⟩
  · rw [hrequests 2 ⟨1000, 1, .null⟩ hchannel, hcursor]
    rfl
  · rw [hrequests 2 ⟨1001, 1, .null⟩ hchannel, hcursor]
    rfl

end ResumableSession.Remote
