import ResumableSession.Proofs.Outbox.Consecutive
import ResumableSession.Proofs.Remote.History

/-!
Which responses are sent on a channel.

The responses of a session are read off the calls that gave them to it, in the order of these
calls.  An outbox holds those of them that no acknowledgement has exceeded since, and a channel
carries a contiguous part of the responses of one session, which reaches up to the last one as
long as the channel is bound.
-/

namespace ResumableSession.Remote

/-! ## Responses of a session -/

/-- What a session was given to say, after the number of the request that it accepts next. -/
def Turn.said? (sessionId : String) (t : Turn) : Option (Nat × Json) :=
  match t.call with
  | .respond name payload =>
      if name = sessionId then (t.before.requestCursor? sessionId).map (·, payload) else none
  | _ => none

/-- The responses of a session, numbered in the order in which they were given to it. -/
def responsesOf (sessionId : String) (turns : List Turn) : List Response :=
  (turns.filterMap (Turn.said? sessionId)).zipIdx.map fun said => ⟨said.2, said.1.1, said.1.2⟩

/-- The turns after the one in which a session was given the response of this number. -/
def since (sessionId : String) (id : Nat) (turns : List Turn) : List Turn :=
  match turns with
  | [] => []
  | t :: later =>
      match t.said? sessionId, id with
      | none, id => since sessionId id later
      | some _, 0 => later
      | some _, id + 1 => since sessionId id later

def Action.welcomes (sessionId : String) : Action → Bool
  | .send _ (.success name _ _) => name = sessionId
  | _ => false

/-- The cursor of a channel that goes on with the session, or of a request on its channel. -/
def Turn.acknowledged? (sessionId : String) (t : Turn) : Option Nat :=
  match t.call with
  | .handle _ (.attach _ responseCursor) =>
      if t.actions.any (Action.welcomes sessionId) then some responseCursor else none
  | .handle channel (.request request) =>
      if t.before.sessionOf? channel = some sessionId then some request.responseCursor else none
  | _ => none

/-- Whether a session was told, since it was given the response, that the client is beyond it. -/
def exceeded (sessionId : String) (id : Nat) (turns : List Turn) : Bool :=
  (since sessionId id turns).any fun t => (t.acknowledged? sessionId).any (id < ·)

/-! ## Responses on a channel -/

def Action.responseOn? (channel : Nat) : Action → Option Response
  | .send other (.response response) => if other = channel then some response else none
  | _ => none

def Turn.responsesOn (channel : Nat) (t : Turn) : List Response :=
  t.actions.filterMap (Action.responseOn? channel)

def responsesOn (channel : Nat) (turns : List Turn) : List Response :=
  turns.flatMap (Turn.responsesOn channel)

variable {turns : List Turn} {t : Turn} {sessionId : String} {channel : Nat}

theorem said?_eq_some {said : Nat × Json} (h : t.said? sessionId = some said) :
    ∃ s payload, t.call = .respond sessionId payload ∧ t.before.session? sessionId = some s ∧
      said = (s.requestCursor, payload) := by
  unfold Turn.said? at h
  split at h
  · next name payload hcall =>
      split at h
      · next he =>
          obtain ⟨cursor, hcursor, rfl⟩ := Option.map_eq_some_iff.mp h
          obtain ⟨s, hs, rfl⟩ := Option.map_eq_some_iff.mp hcursor
          exact ⟨s, payload, he ▸ hcall, hs, rfl⟩
      · contradiction
  · contradiction

theorem mem_responsesOf {response : Response} :
    response ∈ responsesOf sessionId turns ↔
      (turns.filterMap (Turn.said? sessionId))[response.id]? =
        some (response.requestCursor, response.payload) := by
  rw [responsesOf, List.mem_map]
  constructor
  · rintro ⟨said, hmem, rfl⟩
    exact List.mem_zipIdx_iff_getElem?.mp hmem
  · intro h
    exact ⟨((response.requestCursor, response.payload), response.id),
      List.mem_zipIdx_iff_getElem?.mpr h, rfl⟩

/-! ## One more turn -/

theorem responsesOn_push :
    responsesOn channel (turns ++ [t]) = responsesOn channel turns ++ t.responsesOn channel := by
  simp [responsesOn]

theorem responsesOf_silent (h : t.said? sessionId = none) :
    responsesOf sessionId (turns ++ [t]) = responsesOf sessionId turns := by
  simp [responsesOf, h]

theorem responsesOf_said (turns : List Turn) {said : Nat × Json}
    (h : t.said? sessionId = some said) :
    responsesOf sessionId (turns ++ [t]) =
      responsesOf sessionId turns ++
        [⟨(responsesOf sessionId turns).length, said.1, said.2⟩] := by
  simp [responsesOf, h, List.zipIdx_append]

theorem responsesOf_mono {later : List Turn} (h : turns <+: later) :
    responsesOf sessionId turns <+: responsesOf sessionId later := by
  obtain ⟨rest, rfl⟩ := h
  simp [responsesOf, List.zipIdx_append]

theorem consecutive_zipIdx (said : List (Nat × Json)) (first : Nat) :
    Consecutive first (first + said.length)
      ((said.zipIdx first).map fun said => (⟨said.2, said.1.1, said.1.2⟩ : Response)) := by
  induction said generalizing first with
  | nil => rfl
  | cons said rest ih =>
      have hrest := ih (first + 1)
      rw [Nat.add_right_comm, Nat.add_assoc] at hrest
      exact ⟨rfl, hrest⟩

theorem consecutive_responsesOf (sessionId : String) (turns : List Turn) :
    Consecutive 0 (responsesOf sessionId turns).length (responsesOf sessionId turns) := by
  have h := consecutive_zipIdx (turns.filterMap (Turn.said? sessionId)) 0
  rw [Nat.zero_add] at h
  simpa [responsesOf] using h

theorem length_responsesOf_cons (first : Turn) (later : List Turn) :
    (responsesOf sessionId (first :: later)).length =
      (responsesOf sessionId later).length + (first.said? sessionId).toList.length := by
  cases hsaid : first.said? sessionId <;> simp [responsesOf, hsaid]

theorem since_push {id : Nat} (hid : id < (responsesOf sessionId turns).length) :
    since sessionId id (turns ++ [t]) = since sessionId id turns ++ [t] := by
  induction turns generalizing id with
  | nil => simp [responsesOf] at hid
  | cons first later ih =>
      rw [length_responsesOf_cons] at hid
      cases hsaid : first.said? sessionId with
      | none =>
          simp only [List.cons_append, since, hsaid]
          exact ih (by simpa [hsaid] using hid)
      | some said =>
          cases id with
          | zero => simp only [List.cons_append, since, hsaid]
          | succ id =>
              simp only [List.cons_append, since, hsaid]
              exact ih (by simpa [hsaid] using hid)

theorem since_last {said : Nat × Json} (h : t.said? sessionId = some said) :
    since sessionId (responsesOf sessionId turns).length (turns ++ [t]) = [] := by
  induction turns with
  | nil => simp [since, responsesOf, h]
  | cons first later ih =>
      rw [length_responsesOf_cons]
      cases hsaid : first.said? sessionId <;> simp [since, hsaid, ih]

theorem exceeded_push {id : Nat} (hid : id < (responsesOf sessionId turns).length) :
    exceeded sessionId id (turns ++ [t]) =
      (exceeded sessionId id turns || (t.acknowledged? sessionId).any (id < ·)) := by
  simp [exceeded, since_push hid]

/-! ## What becomes of a session -/

inductive Evolution (t : Turn) (sessionId : String) :
    Option RemoteSession → RemoteSession → Prop where
  | created (profile : Profile) (channel : Nat) (named : sessionId = t.before.nextName)
      (asked : t.call = .handle channel .createSession)
      (welcomed : t.actions.any (Action.welcomes sessionId)) :
      Evolution t sessionId none { profile, channel := some channel }
  | same {s u : RemoteSession} (profile : u.profile = s.profile) (outbox : u.outbox = s.outbox)
      (next : u.nextResponseId = s.nextResponseId) (silent : t.said? sessionId = none)
      (quiet : t.acknowledged? sessionId = none) : Evolution t sessionId (some s) u
  | released {s u : RemoteSession} (cursor : Nat) (profile : u.profile = s.profile)
      (outbox : u.outbox = s.outbox.dropBelow cursor)
      (next : u.nextResponseId = s.nextResponseId) (silent : t.said? sessionId = none)
      (told : t.acknowledged? sessionId = some cursor) : Evolution t sessionId (some s) u
  | said {s u : RemoteSession} (payload : Json) (profile : u.profile = s.profile)
      (outbox : u.outbox = s.outbox.push ⟨s.nextResponseId, s.requestCursor, payload⟩)
      (next : u.nextResponseId = s.nextResponseId + 1)
      (said : t.said? sessionId = some (s.requestCursor, payload)) :
      Evolution t sessionId (some s) u

variable {r : Remote} {call : Call} {answer : Answer} {s u : RemoteSession} {name : String}

theorem welcomes_resumption :
    (s.channel.toList.map Action.shutdown ++ resumption channel sessionId u).any
      (Action.welcomes name) = decide (sessionId = name) := by
  have hshutdowns : (s.channel.toList.map Action.shutdown).any (Action.welcomes name) = false :=
    List.any_eq_false.mpr (by simp [Action.welcomes])
  have hresponses : (u.outbox.entries.map fun response =>
      Action.send channel (.response response)).any (Action.welcomes name) = false :=
    List.any_eq_false.mpr (by simp [Action.welcomes])
  rw [List.any_append, hshutdowns, resumption, List.any_cons, hresponses]
  simp [Action.welcomes]

theorem acknowledged?_resumption {t : Turn} {responseCursor : Nat}
    (hcall : t.call = .handle channel (.attach sessionId responseCursor))
    (hactions : t.actions =
      s.channel.toList.map Action.shutdown ++ resumption channel sessionId u) :
    t.acknowledged? name = if sessionId = name then some responseCursor else none := by
  simp only [Turn.acknowledged?, hcall, hactions, welcomes_resumption, decide_eq_true_eq]

theorem acknowledged?_request {t : Turn} {request : Request} {slot : Channel}
    (hcall : t.call = .handle channel (.request request))
    (here : t.before.channel? channel = some slot) :
    t.acknowledged? name =
      if slot.sessionId = some name then some request.responseCursor else none := by
  simp only [Turn.acknowledged?, hcall, sessionOf?_of_slot here]

theorem evolution_request {t : Turn} {request : Request} {change : RemoteSession → RemoteSession}
    (hcall : t.call = .handle channel (.request request))
    (here : t.before.channel? channel =
      some { profile := some s.profile, sessionId := some sessionId })
    (found : t.before.session? sessionId = some s)
    (hprofile : (change s).profile = s.profile)
    (houtbox : (change s).outbox = s.outbox.dropBelow request.responseCursor)
    (hnext : (change s).nextResponseId = s.nextResponseId)
    (hu : (t.before.modifySession sessionId change).session? name = some u) :
    Evolution t name (t.before.session? name) u := by
  have hsilent : t.said? name = none := by simp only [Turn.said?, hcall]
  have htold : t.acknowledged? name =
      if some sessionId = some name then some request.responseCursor else none :=
    acknowledged?_request hcall here
  rw [session?_modifySession_of_session found] at hu
  split at hu
  · next he =>
      obtain rfl := Option.some.inj hu
      rw [if_pos (by rw [he])] at htold
      rw [he, found]
      rw [he] at htold hsilent
      exact .released request.responseCursor hprofile houtbox hnext hsilent htold
  · next hne =>
      rw [if_neg (by simpa using Ne.symm hne)] at htold
      rw [hu]
      exact .same rfl rfl rfl hsilent htold

theorem Outcome.evolution (houtcome : Outcome r call answer) (hbound : r.Bound)
    (hu : answer.2.session? name = some u) :
    Evolution ⟨r, call, answer.1⟩ name (r.session? name) u := by
  have stays {t : Turn} (hsilent : t.said? name = none) (hquiet : t.acknowledged? name = none)
      (hsame : r.session? name = some u) : Evolution t name (r.session? name) u := by
    rw [hsame]
    exact .same rfl rfl rfl hsilent hquiet
  cases houtcome with
  | opened | greeted | denied | absent => exact stays rfl rfl hu
  | unheard sessionId payload missing =>
      refine stays ?_ rfl hu
      simp only [Turn.said?]
      split
      · next he => rw [requestCursor?, ← he, missing]; rfl
      · rfl
  | refused channel message error known free =>
      refine stays rfl ?_ hu
      cases message with
      | request request => simp [Turn.acknowledged?, free request rfl]
      | _ => rfl
  | ignored channel message profile here =>
      refine stays rfl ?_ hu
      cases message with
      | request request => rw [acknowledged?_request rfl here, if_neg nofun]
      | _ => rfl
  | closed channel =>
      rw [session?_closeChannel hbound] at hu
      obtain ⟨s, hs, rfl⟩ := Option.map_eq_some_iff.mp hu
      rw [hs]
      unfold detach
      split <;> exact .same rfl rfl rfl rfl rfl
  | created channel profile here =>
      rw [session?_created] at hu
      split at hu
      · next he =>
          obtain rfl := Option.some.inj hu
          rw [he, hbound.session?_nextName]
          exact .created profile channel rfl rfl (by simp [Turn.actions, Action.welcomes])
      · exact stays rfl rfl hu
  | resumed channel sessionId responseCursor s here found =>
      rw [session?_moved found] at hu
      split at hu
      · next he =>
          obtain rfl := Option.some.inj hu
          rw [he, found]
          refine .released responseCursor rfl rfl rfl rfl ?_
          rw [acknowledged?_resumption rfl rfl, if_pos rfl]
      · next hne =>
          refine stays rfl ?_ hu
          rw [acknowledged?_resumption rfl rfl, if_neg (Ne.symm hne)]
  | accepted channel sessionId request s here found =>
      exact evolution_request (t := ⟨r, _, _⟩) rfl here found rfl rfl rfl hu
  | repeated channel sessionId request s here found =>
      exact evolution_request (t := ⟨r, _, _⟩) rfl here found rfl rfl rfl hu
  | responded sessionId payload s response found numbered =>
      rw [session?_modifySession_of_session found] at hu
      split at hu
      · next he =>
          obtain rfl := Option.some.inj hu
          rw [he, found]
          refine .said payload rfl (numbered ▸ rfl) rfl ?_
          simp [Turn.said?, requestCursor?, found]
      · next hne =>
          refine stays ?_ rfl hu
          simp [Turn.said?, Ne.symm hne]
  | dropped sessionId s found =>
      rw [session?_dropped] at hu
      split at hu
      · contradiction
      · exact stays rfl rfl hu

/-! ## What a session keeps -/

/-- The outbox of a session holds those of its responses that are not exceeded, which are the
last ones. -/
structure Told (turns : List Turn) (sessionId : String) (s : RemoteSession) : Prop where
  count : s.nextResponseId = (responsesOf sessionId turns).length
  outbox : s.outbox.entries =
    (responsesOf sessionId turns).filter fun response => ¬ exceeded sessionId response.id turns
  suffix : s.outbox.entries <:+ responsesOf sessionId turns

theorem Told.consecutive (h : Told turns sessionId s) :
    ∃ first, Consecutive first (responsesOf sessionId turns).length s.outbox.entries := by
  obtain ⟨dropped, hdropped⟩ := h.suffix
  have hall := consecutive_responsesOf sessionId turns
  rw [← hdropped] at hall ⊢
  exact ⟨_, (Consecutive.append_iff.mp hall).2⟩

theorem filter_exceeded_push :
    ((responsesOf sessionId turns).filter fun response =>
        ¬ exceeded sessionId response.id (turns ++ [t])) =
      ((responsesOf sessionId turns).filter fun response =>
        ¬ exceeded sessionId response.id turns).filter fun response =>
          ¬ (t.acknowledged? sessionId).any (response.id < ·) := by
  rw [List.filter_filter]
  apply List.filter_congr
  intro response hmem
  have hid : response.id < (responsesOf sessionId turns).length :=
    (consecutive_responsesOf sessionId turns).lt_of_mem hmem
  rw [exceeded_push hid]
  cases exceeded sessionId response.id turns <;> simp

theorem Told.evolve {before : Option RemoteSession}
    (htold : ∀ s, before = some s → Told turns sessionId s)
    (hfresh : sessionId = t.before.nextName → responsesOf sessionId turns = [])
    (hevolution : Evolution t sessionId before u) : Told (turns ++ [t]) sessionId u := by
  cases hevolution with
  | created profile channel named asked =>
      have silent : t.said? sessionId = none := by rw [Turn.said?, asked]
      have hnone := hfresh named
      rw [← responsesOf_silent silent] at hnone
      exact {
        count := by rw [hnone]; rfl
        outbox := by rw [hnone]; rfl
        suffix := List.nil_suffix }
  | @same s u _ houtbox hnext silent quiet =>
      have h := htold s rfl
      refine { count := ?_, outbox := ?_, suffix := ?_ }
      · rw [responsesOf_silent silent, hnext, h.count]
      · rw [responsesOf_silent silent, filter_exceeded_push, quiet, houtbox, h.outbox]
        simp
      · rw [responsesOf_silent silent, houtbox]
        exact h.suffix
  | @released s u cursor _ houtbox hnext silent told =>
      have h := htold s rfl
      obtain ⟨first, hentries⟩ := h.consecutive
      refine { count := ?_, outbox := ?_, suffix := ?_ }
      · rw [responsesOf_silent silent, hnext, h.count]
      · rw [responsesOf_silent silent, filter_exceeded_push, told, houtbox,
          hentries.dropBelow_eq_filter, h.outbox]
        simp [seq]
      · rw [responsesOf_silent silent, houtbox]
        exact (List.dropWhile_suffix _).trans h.suffix
  | @said s u payload _ houtbox hnext said =>
      have h := htold s rfl
      have hquiet : t.acknowledged? sessionId = none := by
        obtain ⟨_, _, hcall, -⟩ := said?_eq_some said
        simp only [Turn.acknowledged?, hcall]
      have hlast : exceeded sessionId (responsesOf sessionId turns).length (turns ++ [t]) = false := by
        rw [exceeded, since_last said]
        rfl
      have hentries : u.outbox.entries = s.outbox.entries ++
          [⟨(responsesOf sessionId turns).length, s.requestCursor, payload⟩] := by
        rw [houtbox, ← h.count]
        rfl
      refine { count := ?_, outbox := ?_, suffix := ?_ }
      · rw [responsesOf_said turns said, hnext, h.count, List.length_append]
        rfl
      · have hnone : (s.outbox.entries.filter fun response =>
            ¬ (none : Option Nat).any (response.id < ·)) = s.outbox.entries :=
          List.filter_eq_self.mpr (by simp)
        rw [responsesOf_said turns said, hentries, List.filter_append, filter_exceeded_push, hquiet,
          ← h.outbox, hnone]
        simp [hlast]
      · rw [responsesOf_said turns said, hentries]
        obtain ⟨dropped, hdropped⟩ := h.suffix
        exact ⟨dropped, by rw [← List.append_assoc, hdropped]⟩

theorem History.issued {stem : String} (h : History stem turns r)
    (hsaid : responsesOf sessionId turns ≠ []) : Issued sessionId r := by
  induction h with
  | new => contradiction
  | @turn turns r earlier call ih =>
      have hbound := earlier.sound.toBound
      have houtcome := perform_outcome hbound earlier.sound.staged call
      cases hlast : (r.turn call).said? sessionId with
      | none =>
          rw [responsesOf_silent hlast] at hsaid
          exact houtcome.issued (ih hsaid)
      | some said =>
          obtain ⟨s, -, -, found, -⟩ := said?_eq_some hlast
          exact houtcome.issued (hbound.named sessionId s found)

theorem History.told {stem : String} (h : History stem turns r)
    (found : r.session? sessionId = some s) : Told turns sessionId s := by
  induction h generalizing s with
  | new => contradiction
  | @turn turns r earlier call ih =>
      have hbound := earlier.sound.toBound
      have houtcome := perform_outcome hbound earlier.sound.staged call
      refine Told.evolve (fun s => ih) ?_ (houtcome.evolution hbound found)
      intro hnew
      cases hsaid : responsesOf sessionId turns with
      | nil => rfl
      | cons response rest =>
          have hissued := earlier.issued (hsaid ▸ List.cons_ne_nil response rest)
          rw [hnew] at hissued
          exact absurd hissued (not_issued_nextName r)

/-! ## What a channel carries -/

structure Carried (turns : List Turn) (r : Remote) (channel : Nat) : Prop where
  unbound : Unbound channel r → responsesOn channel turns = []
  bound : ∀ sessionId, r.sessionOf? channel = some sessionId →
    responsesOn channel turns <:+ responsesOf sessionId turns
  always : ∃ sessionId, responsesOn channel turns <:+: responsesOf sessionId turns

theorem Carried.quiet (h : Carried turns r channel) (houtcome : Outcome r call answer)
    (hbound : r.Bound) (ht : t.responsesOn channel = [])
    (hsilent : ∀ sessionId, r.sessionOf? channel = some sessionId → t.said? sessionId = none) :
    Carried (turns ++ [t]) answer.2 channel := by
  have hsame : responsesOn channel (turns ++ [t]) = responsesOn channel turns := by
    rw [responsesOn_push, ht, List.append_nil]
  refine { unbound := ?_, bound := ?_, always := ?_ }
  · intro hfree
    rw [hsame]
    exact h.unbound (houtcome.unbound hbound hfree)
  · intro sessionId hof
    rw [hsame]
    rcases houtcome.bound_or_unbound hbound hof with hof | hfree
    · rw [responsesOf_silent (hsilent sessionId hof)]
      exact h.bound sessionId hof
    · rw [h.unbound hfree]
      exact List.nil_suffix
  · obtain ⟨sessionId, hpart⟩ := h.always
    rw [hsame]
    exact ⟨sessionId, hpart.trans (responsesOf_mono (List.prefix_append ..)).isInfix⟩

theorem responsesOn_resumption {other : Nat} :
    (s.channel.toList.map Action.shutdown ++ resumption channel sessionId u).filterMap
      (Action.responseOn? other) = if channel = other then u.outbox.entries else [] := by
  have hshutdowns : (s.channel.toList.map Action.shutdown).filterMap
      (Action.responseOn? other) = [] := by
    cases s.channel <;> rfl
  rw [List.filterMap_append, hshutdowns, List.nil_append, resumption,
    List.filterMap_cons_none rfl, List.filterMap_map]
  split <;> simp [Function.comp_def, Action.responseOn?, *]

theorem responsesOn_respond (response : Response) (s : RemoteSession) (channel : Nat) :
    (s.channel.toList.map fun target => Action.send target (.response response)).filterMap
      (Action.responseOn? channel) = if s.channel = some channel then [response] else [] := by
  cases s.channel with
  | none => rfl
  | some target => by_cases he : target = channel <;> simp [Action.responseOn?, he]

theorem Carried.of_bound {after : Remote} (hbound : after.Bound)
    (hof : after.sessionOf? channel = some sessionId)
    (hsuffix : responsesOn channel turns <:+ responsesOf sessionId turns) :
    Carried turns after channel where
  unbound hfree := absurd hfree (hbound.not_unbound hof)
  bound name hname := by
    obtain rfl := Option.some.inj (hof.symm.trans hname)
    exact hsuffix
  always := ⟨sessionId, hsuffix.isInfix⟩

theorem suffix_said (said : Nat × Json)
    (hsuffix : responsesOn channel turns <:+ responsesOf sessionId turns)
    (hsaid : t.said? sessionId = some said)
    (hon : t.responsesOn channel = [⟨(responsesOf sessionId turns).length, said.1, said.2⟩]) :
    responsesOn channel (turns ++ [t]) <:+ responsesOf sessionId (turns ++ [t]) := by
  obtain ⟨earlier, hearlier⟩ := hsuffix
  rw [responsesOn_push, responsesOf_said turns hsaid, hon, ← hearlier, List.append_assoc]
  exact List.suffix_append ..

theorem Carried.turn (h : Carried turns r channel) (houtcome : Outcome r call answer)
    (hbound : r.Bound) (hafter : answer.2.Bound) (htold : ∀ sessionId s,
      r.session? sessionId = some s → Told turns sessionId s) :
    Carried (turns ++ [⟨r, call, answer.1⟩]) answer.2 channel := by
  have hquiet := h.quiet (t := ⟨r, call, answer.1⟩) houtcome hbound
  cases houtcome with
  | opened | closed | refused | ignored | greeted | created | denied | accepted | repeated |
      absent =>
      exact hquiet rfl fun _ _ => rfl
  | dropped name s =>
      refine hquiet ?_ fun _ _ => rfl
      cases s.channel <;> simp [Turn.responsesOn, Turn.actions, Action.responseOn?]
  | unheard name payload missing =>
      refine hquiet rfl fun sessionId hof => ?_
      cases hsaid : Turn.said? sessionId ⟨r, .respond name payload, _⟩ with
      | none => rfl
      | some said =>
          obtain ⟨s, _, hcall, found, -⟩ := said?_eq_some hsaid
          obtain ⟨rfl, -⟩ := Call.respond.inj hcall
          exact nomatch missing.symm.trans found
  | responded name payload s response found numbered =>
      have hon := responsesOn_respond response s channel
      by_cases hc : s.channel = some channel
      · rw [if_pos hc] at hon
        have hof : r.sessionOf? channel = some name :=
          (hbound.agree channel name).mpr ((channelOf?_of_session found).trans hc)
        refine .of_bound hafter hof (suffix_said (s.requestCursor, payload) (h.bound name hof) ?_ ?_)
        · simp [Turn.said?, requestCursor?, found]
        · rw [← (htold name s found).count, ← numbered]
          exact hon
      · rw [if_neg hc] at hon
        refine hquiet hon fun sessionId hof => ?_
        have hother : name ≠ sessionId := by
          rintro rfl
          rw [hbound.agree, channelOf?_of_session found] at hof
          exact hc hof
        simp only [Turn.said?, if_neg hother]
  | resumed target name responseCursor s here found =>
      have hon : (s.channel.toList.map Action.shutdown ++
          resumption target name (Remote.resumed target responseCursor s)).filterMap
            (Action.responseOn? channel) =
              if target = channel then (s.outbox.dropBelow responseCursor).entries else [] :=
        responsesOn_resumption
      by_cases he : target = channel
      · subst he
        rw [if_pos rfl] at hon
        have hfree := sessionOf?_of_slot here
        have hof : (r.moved target name responseCursor s).sessionOf? target = some name := by
          rw [sessionOf?_moved (hbound.channel_ne hfree found) here, if_pos rfl]
        refine .of_bound hafter hof ?_
        -- Nothing was sent on the channel before, and what is sent now is kept by the session.
        rw [responsesOn_push, h.unbound (.inr ⟨_, here, rfl, rfl⟩), responsesOf_silent rfl]
        rw [Turn.responsesOn, Turn.actions, hon]
        exact (List.dropWhile_suffix _).trans (htold name s found).suffix
      · rw [if_neg he] at hon
        exact hquiet hon fun _ _ => rfl

theorem History.carried {stem : String} (h : History stem turns r) (channel : Nat) :
    Carried turns r channel := by
  induction h with
  | new => exact { unbound := fun _ => rfl, bound := nofun, always := ⟨"", List.infix_rfl⟩ }
  | @turn turns r earlier call ih =>
      exact ih.turn (perform_outcome earlier.sound.toBound earlier.sound.staged call)
        earlier.sound.toBound (earlier.sound.perform call).toBound fun _ _ => earlier.told

/-! ## Going on over a channel -/

theorem History.attached {stem : String} (h : History stem turns r) {responseCursor : Nat}
    {actions : List Action}
    (hanswer : (r.handle channel (.attach sessionId responseCursor)).1 = .ok actions)
    (hwelcome : actions.any (Action.welcomes sessionId)) :
    actions.filterMap (Action.responseOn? channel) =
      (responsesOf sessionId turns).filter fun response =>
        responseCursor ≤ response.id ∧ ¬ exceeded sessionId response.id turns := by
  have houtcome := handle_outcome h.sound.toBound h.sound.staged channel
    (.attach sessionId responseCursor)
  generalize r.handle channel (.attach sessionId responseCursor) = answer at hanswer houtcome
  cases houtcome with
  | refused => contradiction
  | ignored | denied =>
      obtain rfl := Except.ok.inj hanswer
      contradiction
  | resumed _ _ _ s here found =>
      obtain rfl := Except.ok.inj hanswer
      have htold := h.told found
      obtain ⟨first, hentries⟩ := htold.consecutive
      rw [responsesOn_resumption, if_pos rfl, resumed, hentries.dropBelow_eq_filter, htold.outbox,
        List.filter_filter]
      simp [seq]

theorem History.responded {stem : String} (h : History stem turns r) (payload : Json)
    (hchannel : r.channelOf? sessionId = some channel) :
    ∃ cursor, r.requestCursor? sessionId = some cursor ∧
      (r.respond sessionId payload).1 =
        .ok [.send channel (.response ⟨(responsesOf sessionId turns).length, cursor, payload⟩)] := by
  obtain ⟨s, found, here⟩ := Option.bind_eq_some_iff.mp hchannel
  refine ⟨s.requestCursor, by rw [requestCursor?, found]; rfl, ?_⟩
  rw [respond, found, ← (h.told found).count]
  simp only [here, Option.toList_some, List.map_cons, List.map_nil]

/-- On every channel, the responses are those of one session without a gap, each with the number,
the cursor and the payload that it was given, and they reach up to the last one as long as the
channel is bound.  A channel that goes on with a session is sent what the client may still miss,
and everything that the session is given to say from then on. -/
theorem responses_contiguous (stem : String) (calls : List Call) (channel : Nat) :
    let turns := (Remote.new stem).turns calls
    let r := (Remote.new stem).run calls
    (∃ sessionId first stop, Consecutive first stop (responsesOn channel turns) ∧
      ∀ response ∈ responsesOn channel turns,
        (turns.filterMap (Turn.said? sessionId))[response.id]? =
          some (response.requestCursor, response.payload)) ∧
    (∀ sessionId, r.channelOf? sessionId = some channel →
      responsesOn channel turns <:+ responsesOf sessionId turns) ∧
    (∀ sessionId responseCursor actions,
      (r.handle channel (.attach sessionId responseCursor)).1 = .ok actions →
      actions.any (Action.welcomes sessionId) →
      actions.filterMap (Action.responseOn? channel) =
        (responsesOf sessionId turns).filter fun response =>
          responseCursor ≤ response.id ∧ ¬ exceeded sessionId response.id turns) ∧
    ∀ sessionId payload, r.channelOf? sessionId = some channel →
      ∃ cursor, r.requestCursor? sessionId = some cursor ∧
        (r.respond sessionId payload).1 =
          .ok [.send channel
            (.response ⟨(responsesOf sessionId turns).length, cursor, payload⟩)] := by
  intro turns r
  have h : History stem turns r := history_run stem calls
  have hcarried := h.carried channel
  refine ⟨?_, ?_, fun _ _ _ => h.attached, fun _ => h.responded⟩
  · obtain ⟨sessionId, hpart⟩ := hcarried.always
    obtain ⟨first, stop, hconsecutive⟩ := (consecutive_responsesOf sessionId turns).of_part hpart
    exact ⟨sessionId, first, stop, hconsecutive,
      fun response hmem => mem_responsesOf.mp (hpart.mem hmem)⟩
  · exact fun sessionId hchannel =>
      hcarried.bound sessionId ((h.sound.agree channel sessionId).mpr hchannel)

/-- The first response is acknowledged by a request, and the last one is given while the session
has no channel. -/
def gap : List Call :=
  [.openChannel, .handle 1 (.hello ⟨"u", "g"⟩), .handle 1 .createSession, .respond "s:1" .null,
    .respond "s:1" .null, .handle 1 (.request ⟨1000, 1, .null⟩), .closeChannel 1,
    .respond "s:1" .null, .openChannel, .handle 2 (.hello ⟨"u", "g"⟩)]

theorem gap_replayed :
    let turns := (Remote.new "s").turns gap
    let answer := ((Remote.new "s").run gap).handle 2 (.attach "s:1" 0)
    answer.1 = .ok [.send 2 (.success "s:1" 1001 ⟨"u", "g"⟩),
        .send 2 (.response ⟨1, 1000, .null⟩), .send 2 (.response ⟨2, 1001, .null⟩)] ∧
      (responsesOf "s:1" turns).filter (fun response =>
          0 ≤ response.id ∧ ¬ exceeded "s:1" response.id turns) =
        [⟨1, 1000, .null⟩, ⟨2, 1001, .null⟩] := by
  intro turns answer
  have hanswer : answer.1 = .ok [.send 2 (.success "s:1" 1001 ⟨"u", "g"⟩),
      .send 2 (.response ⟨1, 1000, .null⟩), .send 2 (.response ⟨2, 1001, .null⟩)] := by
    rfl
  obtain ⟨-, -, hattached, -⟩ := responses_contiguous "s" gap 2
  exact ⟨hanswer, (hattached "s:1" 0 _ hanswer rfl).symm⟩

end ResumableSession.Remote
