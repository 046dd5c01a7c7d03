import ResumableSession.Proofs.Remote.Responses

/-!
Which channels learn of a session.

A session belongs to the profile of the channel that created it.  Whatever is said of it is said
to channels that said hello with the same profile, and only such channels are heard on its
behalf.  To every other channel it is as if the session did not exist.
-/

namespace ResumableSession.Remote

/-! ## Hellos and creations -/

/-- The profile in the first hello on a channel.  Any later one is refused, or passed over on a
retired channel. -/
def greeting? (channel : Nat) (turns : List Turn) : Option Profile :=
  turns.findSome? (Turn.greeting? channel)

def Turn.creator? (sessionId : String) (t : Turn) : Option Nat :=
  match t.call with
  | .handle channel .createSession =>
      if t.actions.any (Action.welcomes sessionId) then some channel else none
  | _ => none

def creator? (sessionId : String) (turns : List Turn) : Option Nat :=
  turns.findSome? (Turn.creator? sessionId)

/-- The channel said hello with the profile of the channel that created the session. -/
def Entitled (turns : List Turn) (channel : Nat) (sessionId : String) : Prop :=
  ∃ creator profile, creator? sessionId turns = some creator ∧
    greeting? creator turns = some profile ∧ greeting? channel turns = some profile

variable {turns : List Turn} {t : Turn} {r : Remote} {call : Call} {answer : Answer}
  {channel : Nat} {sessionId : String} {slot : Channel} {s : RemoteSession} {profile : Profile}
  {actions : List Action}

theorem greeting?_push :
    greeting? channel (turns ++ [t]) = (greeting? channel turns).or (t.greeting? channel) := by
  simp [greeting?, List.findSome?_append]

theorem creator?_push :
    creator? sessionId (turns ++ [t]) = (creator? sessionId turns).or (t.creator? sessionId) := by
  simp [creator?, List.findSome?_append]

theorem Entitled.mono {later : List Turn} (h : Entitled turns channel sessionId)
    (hlater : turns <+: later) : Entitled later channel sessionId := by
  obtain ⟨creator, profile, hcreator, hprofile, hsame⟩ := h
  exact ⟨creator, profile, hlater.findSome?_eq_some hcreator,
    hlater.findSome?_eq_some hprofile, hlater.findSome?_eq_some hsame⟩

/-! ## One turn -/

theorem Outcome.greeting_open (houtcome : Outcome r call answer)
    (hgreeting : Turn.greeting? channel ⟨r, call, answer.1⟩ = some profile) :
    ∃ slot, r.channel? channel = some slot := by
  cases houtcome with
  | ignored other message _ here =>
      cases message with
      | hello => exact ⟨_, (Option.ite_none_right_eq_some.mp hgreeting).1 ▸ here⟩
      | _ => contradiction
  | greeted other _ here => exact ⟨_, (Option.ite_none_right_eq_some.mp hgreeting).1 ▸ here⟩
  | _ => contradiction

theorem Passage.profile_eq {old : Channel} (h : Passage t channel (some old) slot) :
    slot.profile = old.profile.or (t.greeting? channel) := by
  cases h with
  | same known =>
      rcases known with hsilent | hknown
      · rw [hsilent, Option.or_none]
      · obtain ⟨profile, hprofile⟩ := Option.isSome_iff_exists.mp hknown
        rw [hprofile, Option.some_or]
  | greeted profile greeting =>
      rw [greeting]
      rfl
  | bound _ _ silent => rw [silent, Option.or_none]
  | retired silent =>
      rw [silent, Option.or_none]
      rfl

theorem Outcome.created_bound (houtcome : Outcome r call answer)
    (hcreator : Turn.creator? sessionId ⟨r, call, answer.1⟩ = some channel) :
    sessionId = r.nextName ∧ answer.2.channelOf? sessionId = some channel := by
  cases houtcome with
  | created created profile here =>
      obtain ⟨hwelcome, he⟩ := Option.ite_none_right_eq_some.mp hcreator
      have hname : r.nextName = sessionId := by
        simpa [Turn.actions, Action.welcomes] using hwelcome
      rw [channelOf?_created, if_pos hname.symm]
      exact ⟨hname.symm, he⟩
  | refused _ message | ignored _ message => cases message <;> contradiction
  | _ => contradiction

theorem Evolution.profile_kept {before : Option RemoteSession} (h : Evolution t sessionId before s) :
    (∃ old, before = some old ∧ old.profile = s.profile) ∨
    ∃ creator, t.creator? sessionId = some creator := by
  cases h with
  | created _ channel _ asked welcomed =>
      exact .inr ⟨channel, by rw [Turn.creator?, asked]; exact if_pos welcomed⟩
  | same profile | released _ profile | said _ profile => exact .inl ⟨_, rfl, profile.symm⟩

/-! ## What is on record -/

theorem History.created_issued {stem : String} (h : History stem turns r)
    (hcreator : creator? sessionId turns = some channel) : Issued sessionId r := by
  induction h with
  | new => contradiction
  | @turn turns r earlier call ih =>
      have houtcome := perform_outcome earlier.sound.toBound earlier.sound.staged call
      rw [creator?_push] at hcreator
      rcases Option.or_eq_some_iff.mp hcreator with hcreator | ⟨-, hcreator⟩
      · exact houtcome.issued (ih hcreator)
      · obtain ⟨-, hchannel⟩ := houtcome.created_bound hcreator
        obtain ⟨s, hs, -⟩ := Option.bind_eq_some_iff.mp hchannel
        exact (earlier.sound.perform call).named sessionId s hs

theorem History.creator_nextName {stem : String} (h : History stem turns r) :
    creator? r.nextName turns = none := by
  cases hcreator : creator? r.nextName turns with
  | none => rfl
  | some creator => exact absurd (h.created_issued hcreator) (not_issued_nextName r)

theorem History.creator_eq {stem : String} (h : History stem turns r) (ht : t ∈ turns)
    (hcreator : t.creator? sessionId = some channel) :
    creator? sessionId turns = some channel := by
  obtain ⟨earlier, after, hprefix, hearlier, -, houtcome⟩ := h.of_mem ht
  have hnone : creator? sessionId earlier = none := by
    obtain ⟨rfl, -⟩ := houtcome.created_bound hcreator
    exact hearlier.creator_nextName
  apply hprefix.findSome?_eq_some
  change creator? sessionId (earlier ++ [t]) = some channel
  rw [creator?_push, hnone, Option.none_or, hcreator]

/-- The profile on record for a channel is the one that it gave, and the profile on record for a
session is the one that its creator gave. -/
structure Recorded (turns : List Turn) (r : Remote) : Prop where
  unopened : ∀ channel, r.lastChannel < channel → greeting? channel turns = none
  channels : ∀ channel slot, r.channel? channel = some slot →
    slot.profile = greeting? channel turns
  sessions : ∀ sessionId s, r.session? sessionId = some s → ∃ creator,
    creator? sessionId turns = some creator ∧ greeting? creator turns = some s.profile

theorem Recorded.channel_profile (h : Recorded turns r) (hbound : r.Bound)
    (houtcome : Outcome r call answer) (hslot : answer.2.channel? channel = some slot) :
    slot.profile = greeting? channel (turns ++ [⟨r, call, answer.1⟩]) := by
  have hpassage := houtcome.passage hbound hslot
  rw [greeting?_push]
  cases hbefore : r.channel? channel with
  | none =>
      rw [hbefore] at hpassage
      cases hpassage with
      | opened new silent =>
          rw [h.unopened channel new, silent]
          rfl
  | some old =>
      rw [hbefore] at hpassage
      rw [← h.channels channel old hbefore, hpassage.profile_eq]

theorem Recorded.turn (h : Recorded turns r) (hbound : r.Bound) (hafter : answer.2.Sound)
    (houtcome : Outcome r call answer) (hnew : creator? r.nextName turns = none) :
    Recorded (turns ++ [⟨r, call, answer.1⟩]) answer.2 := by
  refine {
    unopened := ?_
    channels := fun _ _ hslot => h.channel_profile hbound houtcome hslot
    sessions := ?_ }
  · intro channel hlt
    have hunopened := Nat.lt_of_le_of_lt houtcome.lastChannel_le hlt
    rw [greeting?_push, h.unopened channel hunopened, Option.none_or]
    cases hgreeting : Turn.greeting? channel ⟨r, call, answer.1⟩ with
    | none => rfl
    | some profile =>
        obtain ⟨slot, hslot⟩ := houtcome.greeting_open hgreeting
        exact absurd (hbound.opened channel slot hslot) (Nat.not_le_of_lt hunopened)
  · intro sessionId s hs
    have hlater := List.prefix_append turns [⟨r, call, answer.1⟩]
    rcases (houtcome.evolution hbound hs).profile_kept with
      ⟨old, hold, hprofile⟩ | ⟨creator, hcreator⟩
    · obtain ⟨creator, hcreator, hgreeting⟩ := h.sessions sessionId old hold
      rw [← hprofile]
      exact ⟨creator, hlater.findSome?_eq_some hcreator, hlater.findSome?_eq_some hgreeting⟩
    · obtain ⟨rfl, hchannel⟩ := houtcome.created_bound hcreator
      rw [channelOf?_of_session hs] at hchannel
      refine ⟨creator, ?_, ?_⟩
      · rw [creator?_push, hnew, Option.none_or, hcreator]
      · exact (h.channel_profile hbound houtcome (hafter.bound_slot hs hchannel)).symm

theorem History.recorded {stem : String} (h : History stem turns r) : Recorded turns r := by
  induction h with
  | new => exact { unopened := fun _ _ => rfl, channels := nofun, sessions := nofun }
  | @turn turns r earlier call ih =>
      exact ih.turn earlier.sound.toBound (earlier.sound.perform call)
        (perform_outcome earlier.sound.toBound earlier.sound.staged call) earlier.creator_nextName

/-- A session never goes on over a channel that is not entitled to it. -/
theorem History.entitled {stem : String} (h : History stem turns r)
    (hchannel : r.channelOf? sessionId = some channel) : Entitled turns channel sessionId := by
  obtain ⟨s, hs, hchannel⟩ := Option.bind_eq_some_iff.mp hchannel
  obtain ⟨creator, hcreator, hgreeting⟩ := h.recorded.sessions sessionId s hs
  have hsame := h.recorded.channels channel _ (h.sound.bound_slot hs hchannel)
  exact ⟨creator, s.profile, hcreator, hgreeting, hsame.symm⟩

/-! ## What is said, and who is heard -/

theorem Outcome.success_bound {cursor : Nat} (houtcome : Outcome r call answer)
    (hmem : .send channel (.success sessionId cursor profile) ∈
      Turn.actions ⟨r, call, answer.1⟩) :
    answer.2.channelOf? sessionId = some channel := by
  cases houtcome with
  | opened | closed | refused | ignored | greeted | repeated | unheard | absent => contradiction
  | denied | accepted | responded | dropped => simp [Turn.actions] at hmem
  | created created given here =>
      obtain ⟨rfl, he⟩ := Action.send.inj (List.mem_singleton.mp hmem)
      rw [channelOf?_created, if_pos (ServerMessage.success.inj he).1]
  | resumed resumed name responseCursor s here found =>
      have hmem : .send channel (.success sessionId cursor profile) ∈
          resumption resumed name (Remote.resumed resumed responseCursor s) := by
        simpa [Turn.actions] using hmem
      obtain rfl := mem_resumption hmem
      have hname : sessionId = name := by
        simp [resumption] at hmem
        exact hmem.1
      rw [channelOf?_moved found, if_pos hname]

theorem Outcome.response_kept {response : Response} (houtcome : Outcome r call answer)
    (hmem : .send channel (.response response) ∈ Turn.actions ⟨r, call, answer.1⟩) :
    ∃ sessionId s, call.session? = some sessionId ∧ answer.2.session? sessionId = some s ∧
      s.channel = some channel ∧ response ∈ s.outbox.entries := by
  cases houtcome with
  | opened | closed | refused | ignored | greeted | repeated | unheard | absent => contradiction
  | created | denied | accepted | dropped => simp [Turn.actions] at hmem
  | resumed resumed name responseCursor s here found =>
      have hmem : .send channel (.response response) ∈
          resumption resumed name (Remote.resumed resumed responseCursor s) := by
        simpa [Turn.actions] using hmem
      obtain rfl := mem_resumption hmem
      refine ⟨name, Remote.resumed channel responseCursor s, rfl, ?_, rfl, ?_⟩
      · rw [session?_moved found, if_pos rfl]
      · simpa [resumption] using hmem
  | responded name payload s given found =>
      simp only [Turn.actions, List.mem_map, Option.mem_toList] at hmem
      obtain ⟨target, here, he⟩ := hmem
      obtain ⟨rfl, hresponse⟩ := Action.send.inj he
      obtain rfl := ServerMessage.response.inj hresponse
      refine ⟨name, { s with
        nextResponseId := s.nextResponseId + 1, outbox := s.outbox.push given }, rfl, ?_, here, ?_⟩
      · rw [session?_modifySession_of_session found, if_pos rfl]
      · exact List.mem_append_right _ (List.mem_singleton.mpr rfl)

theorem Outcome.deliver_bound {id : Nat} {payload : Json} (houtcome : Outcome r call answer)
    (hbound : r.Bound)
    (hmem : .deliver sessionId id payload ∈ Turn.actions ⟨r, call, answer.1⟩) :
    ∃ channel responseCursor, call = .handle channel (.request ⟨id, responseCursor, payload⟩) ∧
      r.channelOf? sessionId = some channel := by
  cases houtcome with
  | opened | closed | refused | ignored | greeted | repeated | unheard | absent => contradiction
  | created | denied | responded | dropped | resumed => simp [Turn.actions, resumption] at hmem
  | accepted channel name request s here found =>
      obtain ⟨rfl, rfl, rfl⟩ := Action.deliver.inj (List.mem_singleton.mp hmem)
      exact ⟨channel, request.responseCursor, rfl,
        (hbound.agree channel sessionId).mp (sessionOf?_of_slot here)⟩

/-! ## Asking for the session of somebody else -/

def turnedAway (channel : Nat) (slot : Channel) : Except RemoteError (List Action) :=
  if slot.retired then .ok []
  else (greeted slot "AttachToSession").map fun _ => [.send channel .failure]

theorem greeted_eq_ok (tag : String) :
    greeted slot tag = .ok profile ↔ slot.profile = some profile ∧ slot.sessionId = none := by
  obtain ⟨given, sessionId, retired⟩ := slot
  cases given <;> cases sessionId <;> simp [greeted]

theorem handle_foreign (hslot : r.channel? channel = some slot)
    (hforeign : ∀ s, r.session? sessionId = some s → slot.profile ≠ some s.profile)
    (responseCursor : Nat) :
    r.handle channel (.attach sessionId responseCursor) = (turnedAway channel slot, r) := by
  unfold handle turnedAway
  rw [hslot]
  by_cases hretired : slot.retired
  · simp only [hretired, if_true]
  · simp only [hretired, if_false, Bool.false_eq_true, attach, ClientMessage.tag]
    cases hgreeted : greeted slot "AttachToSession" with
    | error => rfl
    | ok profile =>
        obtain ⟨hprofile, -⟩ := (greeted_eq_ok _).mp hgreeted
        have hnone : (r.session? sessionId).filter (·.profile = profile) = none := by
          rw [Option.filter_eq_none_iff]
          intro s hs
          have hother := hforeign s hs
          rw [hprofile] at hother
          simpa [eq_comm] using hother
        simp only [hnone]
        rfl

/-- A session is created once.  Whatever is said of it, and whatever is heard on its behalf, is
said or heard on channels that are entitled to it.  A channel with another profile cannot tell it
from one that is not there, and changes nothing by asking for it. -/
theorem profiles_isolated (stem : String) (calls : List Call) :
    let turns := (Remote.new stem).turns calls
    let r := (Remote.new stem).run calls
    (∀ t ∈ turns, ∀ sessionId channel, t.creator? sessionId = some channel →
      creator? sessionId turns = some channel) ∧
    (∀ t ∈ turns,
      (∀ channel sessionId cursor profile,
        .send channel (.success sessionId cursor profile) ∈ t.actions →
          Entitled turns channel sessionId) ∧
      (∀ channel response, .send channel (.response response) ∈ t.actions →
        ∃ sessionId, t.call.session? = some sessionId ∧
          response ∈ responsesOf sessionId turns ∧ Entitled turns channel sessionId) ∧
      ∀ sessionId id payload, .deliver sessionId id payload ∈ t.actions →
        ∃ channel responseCursor,
          t.call = .handle channel (.request ⟨id, responseCursor, payload⟩) ∧
            Entitled turns channel sessionId) ∧
    ∀ channel slot sessionId s missing, r.channel? channel = some slot →
      r.session? sessionId = some s → slot.profile ≠ some s.profile →
      r.session? missing = none → ∀ cursor other,
        r.handle channel (.attach sessionId cursor) = r.handle channel (.attach missing other) ∧
          (r.handle channel (.attach sessionId cursor)).2 = r ∧
          (slot.profile.isSome → slot.sessionId = none → slot.retired = false →
            (r.handle channel (.attach sessionId cursor)).1 = .ok [.send channel .failure]) := by
  intro turns r
  have h : History stem turns r := history_run stem calls
  refine ⟨fun t ht _ _ => h.creator_eq ht, ?_, ?_⟩
  · intro t ht
    obtain ⟨earlier, after, hprefix, hearlier, hafter, houtcome⟩ := h.of_mem ht
    refine ⟨?_, ?_, ?_⟩
    · intro channel sessionId cursor profile hmem
      exact (hafter.entitled (houtcome.success_bound hmem)).mono hprefix
    · intro channel response hmem
      obtain ⟨sessionId, s, hcall, hs, hchannel, hkept⟩ := houtcome.response_kept hmem
      have hentitled := hafter.entitled ((channelOf?_of_session hs).trans hchannel)
      exact ⟨sessionId, hcall, (responsesOf_mono hprefix).mem ((hafter.told hs).suffix.mem hkept),
        hentitled.mono hprefix⟩
    · intro sessionId id payload hmem
      obtain ⟨channel, responseCursor, hcall, hchannel⟩ :=
        houtcome.deliver_bound hearlier.sound.toBound hmem
      exact ⟨channel, responseCursor, hcall,
        (hearlier.entitled hchannel).mono ((List.prefix_append ..).trans hprefix)⟩
  · intro channel slot sessionId s missing hslot hs hother hmissing cursor other
    have hforeign : r.handle channel (.attach sessionId cursor) = (turnedAway channel slot, r) := by
      refine handle_foreign hslot ?_ cursor
      rw [hs]
      rintro _ ⟨⟩
      exact hother
    have habsent : r.handle channel (.attach missing other) = (turnedAway channel slot, r) := by
      refine handle_foreign hslot ?_ other
      rw [hmissing]
      exact nofun
    rw [hforeign, habsent]
    refine ⟨rfl, rfl, ?_⟩
    intro hgreeted hfree hlive
    obtain ⟨profile, hprofile⟩ := Option.isSome_iff_exists.mp hgreeted
    have hok := (greeted_eq_ok "AttachToSession").mpr ⟨hprofile, hfree⟩
    simp [turnedAway, hlive, hok, Except.map]

def stranger : List Call :=
  [.openChannel, .handle 1 (.hello ⟨"u", "g"⟩), .handle 1 .createSession, .openChannel,
    .handle 2 (.hello ⟨"v", "g"⟩)]

theorem stranger_turnedAway :
    let turns := (Remote.new "s").turns stranger
    let r := (Remote.new "s").run stranger
    Entitled turns 1 "s:1" ∧ ¬ Entitled turns 2 "s:1" ∧
      r.session? "s:1" = some { profile := ⟨"u", "g"⟩, channel := some 1 } ∧
      r.session? "s:2" = none ∧
      r.handle 2 (.attach "s:1" 0) = r.handle 2 (.attach "s:2" 0) ∧
      (r.handle 2 (.attach "s:1" 0)).1 = .ok [.send 2 .failure] := by
  intro turns r
  have hslot : r.channel? 2 = some { profile := some ⟨"v", "g"⟩ } := rfl
  have hs : r.session? "s:1" = some { profile := ⟨"u", "g"⟩, channel := some 1 } := rfl
  have hmissing : r.session? "s:2" = none := rfl
  have hcreating : ∃ t ∈ turns, .send 1 (.success "s:1" 1000 ⟨"u", "g"⟩) ∈ t.actions :=
    ⟨_, .tail _ (.tail _ (.head _)), .head _⟩
  obtain ⟨-, hsaid, hturned⟩ := profiles_isolated "s" stranger
  obtain ⟨hsame, -, hfailure⟩ := hturned 2 _ "s:1" _ "s:2" hslot hs (by decide) hmissing 0 0
  refine ⟨?_, ?_, hs, hmissing, hsame, hfailure rfl rfl rfl⟩
  · obtain ⟨t, ht, hmem⟩ := hcreating
    exact (hsaid t ht).1 1 "s:1" 1000 ⟨"u", "g"⟩ hmem
  · rintro ⟨creator, profile, hcreator, hgreeting, hother⟩
    have hfirst : creator? "s:1" turns = some 1 := rfl
    have hcreated : greeting? 1 turns = some ⟨"u", "g"⟩ := rfl
    have hstranger : greeting? 2 turns = some ⟨"v", "g"⟩ := rfl
    obtain rfl := Option.some.inj (hfirst.symm.trans hcreator)
    obtain rfl := Option.some.inj (hcreated.symm.trans hgreeting)
    exact absurd (Option.some.inj (hstranger.symm.trans hother)) (by decide)

end ResumableSession.Remote
