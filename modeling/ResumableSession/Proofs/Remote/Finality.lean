import ResumableSession.Proofs.Remote.Isolation

/-!
Names of sessions, and the end of a session.

A name is given out once.  `Spent` says of a name that it was given out and that its session is
gone; nothing that is asked brings such a session back.  `Silenced` says of a channel that nothing
will be sent on it any more, which is what becomes of the channel of a session that is dropped.
-/

namespace ResumableSession.Remote

/-! ## Names in actions -/

def Action.named? : Action → Option String
  | .send _ (.success sessionId _ _) | .deliver sessionId _ _ => some sessionId
  | .send _ .failure | .send _ (.response _) | .shutdown _ => none

def Turn.announced (t : Turn) : List String :=
  match t.call with
  | .handle _ .createSession => t.actions.filterMap Action.named?
  | _ => []

def announcedIn (turns : List Turn) : List String :=
  turns.flatMap Turn.announced

variable {turns : List Turn} {t : Turn} {r : Remote} {call : Call} {answer : Answer}
  {channel : Nat} {sessionId name : String} {s : RemoteSession}

theorem announcedIn_push : announcedIn (turns ++ [t]) = announcedIn turns ++ t.announced := by
  simp [announcedIn]

theorem Outcome.announced (houtcome : Outcome r call answer) :
    Turn.announced ⟨r, call, answer.1⟩ = [] ∨
      Turn.announced ⟨r, call, answer.1⟩ = [r.nextName] ∧
        ∃ channel profile, answer.2 = r.created channel profile := by
  cases houtcome with
  | created channel profile here => exact .inr ⟨rfl, channel, profile, rfl⟩
  | refused _ message | ignored _ message => cases message <;> exact .inl rfl
  | _ => exact .inl rfl

theorem Outcome.announced_fresh (houtcome : Outcome r call answer)
    (hname : name ∈ Turn.announced ⟨r, call, answer.1⟩) :
    name = r.nextName ∧ Issued name answer.2 := by
  rcases houtcome.announced with hquiet | ⟨hnext, channel, profile, hafter⟩
  · rw [hquiet] at hname
    contradiction
  · rw [hnext] at hname
    obtain rfl := List.mem_singleton.mp hname
    rw [hafter]
    exact ⟨rfl, r.serial + 1, Nat.le_refl _, rfl⟩

theorem History.announced_issued {stem : String} (h : History stem turns r)
    (hname : name ∈ announcedIn turns) : Issued name r := by
  induction h with
  | new => contradiction
  | @turn turns r earlier call ih =>
      have houtcome := perform_outcome earlier.sound.toBound earlier.sound.staged call
      rw [announcedIn_push] at hname
      rcases List.mem_append.mp hname with hname | hname
      · exact houtcome.issued (ih hname)
      · exact (houtcome.announced_fresh hname).2

theorem History.announced_nodup {stem : String} (h : History stem turns r) :
    (announcedIn turns).Nodup := by
  -- The next name is above all that were given out, so it is none of them.
  induction h with
  | new => exact List.nodup_nil
  | @turn turns r earlier call ih =>
      rw [announcedIn_push]
      rcases (perform_outcome earlier.sound.toBound earlier.sound.staged call).announced with
        hquiet | ⟨hnext, -⟩
      · rw [Remote.turn, hquiet, List.append_nil]
        exact ih
      · rw [Remote.turn, hnext]
        refine List.nodup_append.mpr ⟨ih, List.pairwise_singleton .., ?_⟩
        intro name hname next hmem
        obtain rfl := List.mem_singleton.mp hmem
        rintro rfl
        exact not_issued_nextName r (earlier.announced_issued hname)

theorem Sound.session?_createSession (h : r.Sound) (channel : Nat)
    (found : r.session? name = some s) :
    (r.handle channel .createSession).2.session? name = some s := by
  have houtcome := handle_outcome h.toBound h.staged channel .createSession
  generalize r.handle channel .createSession = answer at houtcome
  cases houtcome with
  | refused | ignored => exact found
  | created _ profile here =>
      have hold : name ≠ r.nextName := by
        rintro rfl
        rw [h.toBound.session?_nextName] at found
        contradiction
      rw [session?_created, if_neg hold, found]

/-! ## Turn by turn -/

theorem Sound.keeps {kept : Remote → Prop} (calls : List Call) (h : r.Sound) (hr : kept r)
    (hkept : ∀ r call, call ∈ calls → r.Sound → kept r → kept (r.perform call).2) :
    (r.run calls).Sound ∧ kept (r.run calls) ∧
      ∀ t ∈ r.turns calls, t.before.Sound ∧ kept t.before ∧ t = t.before.turn t.call := by
  induction calls generalizing r with
  | nil => exact ⟨h, hr, nofun⟩
  | cons call rest ih =>
      obtain ⟨hsound, hlast, hturns⟩ := ih (h.perform call) (hkept r call List.mem_cons_self h hr)
        fun r call hmem => hkept r call (List.mem_cons_of_mem _ hmem)
      refine ⟨hsound, hlast, fun t ht => ?_⟩
      rcases List.mem_cons.mp ht with rfl | ht
      · exact ⟨h, hr, rfl⟩
      · exact hturns t ht

/-! ## Sessions that are gone -/

def Spent (sessionId : String) (r : Remote) : Prop :=
  Issued sessionId r ∧ r.session? sessionId = none

theorem Outcome.spent (houtcome : Outcome r call answer) (hbound : r.Bound)
    (h : Spent sessionId r) : Spent sessionId answer.2 := by
  refine ⟨houtcome.issued h.1, Option.eq_none_iff_forall_ne_some.mpr fun u hu => ?_⟩
  have hevolution := houtcome.evolution hbound hu
  rw [h.2] at hevolution
  cases hevolution with
  | created _ _ named =>
      -- A session comes into being under the next name only, and that one was not given out.
      obtain rfl : sessionId = r.nextName := named
      exact not_issued_nextName r h.1

theorem Spent.channelOf?_eq_none (h : Spent sessionId r) : r.channelOf? sessionId = none := by
  rw [channelOf?, h.2]
  rfl

theorem Outcome.unnamed (houtcome : Outcome r call answer) (hbound : r.Bound)
    (h : Spent sessionId r) :
    ∀ action ∈ Turn.actions ⟨r, call, answer.1⟩, Action.named? action ≠ some sessionId := by
  intro action hmem hnamed
  cases action with
  | send channel message =>
      cases message with
      | success name cursor profile =>
          obtain rfl := Option.some.inj hnamed
          have hchannel := houtcome.success_bound hmem
          rw [(houtcome.spent hbound h).channelOf?_eq_none] at hchannel
          contradiction
      | failure | response => contradiction
  | deliver name id payload =>
      obtain rfl := Option.some.inj hnamed
      obtain ⟨_, _, -, hchannel⟩ := houtcome.deliver_bound hbound hmem
      rw [h.channelOf?_eq_none] at hchannel
      contradiction
  | shutdown channel => contradiction

theorem respond_absent (missing : r.session? sessionId = none) (payload : Json) :
    r.respond sessionId payload = (.error (.unknownSession sessionId), r) := by
  rw [respond, missing]

theorem dropSession_absent (missing : r.session? sessionId = none) :
    r.dropSession sessionId = (.error (.unknownSession sessionId), r) := by
  rw [dropSession, missing]

theorem attach_absent {profile : Profile} (missing : r.session? sessionId = none)
    (here : r.channel? channel = some { profile := some profile }) (responseCursor : Nat) :
    r.handle channel (.attach sessionId responseCursor) = (.ok [.send channel .failure], r) := by
  rw [handle_foreign here (by rw [missing]; exact nofun)]
  rfl

theorem Sound.spent_dropped (h : r.Sound) {actions : List Action}
    (hdropped : (r.dropSession sessionId).1 = .ok actions) :
    ∃ s, r.session? sessionId = some s ∧ (r.dropSession sessionId).2 = r.dropped sessionId s ∧
      Spent sessionId (r.dropSession sessionId).2 := by
  cases found : r.session? sessionId with
  | none =>
      rw [dropSession_absent found] at hdropped
      contradiction
  | some s =>
      have hissued := h.named sessionId s found
      rw [dropSession_eq found]
      refine ⟨s, rfl, rfl, (Outcome.dropped sessionId s found).issued hissued, ?_⟩
      rw [session?_dropped, if_pos rfl]

/-! ## Channels that are done with -/

def Silenced (channel : Nat) (r : Remote) : Prop :=
  channel ≤ r.lastChannel ∧ ∀ slot, r.channel? channel = some slot → slot.retired = true

theorem Outcome.silenced (houtcome : Outcome r call answer) (hbound : r.Bound)
    (h : Silenced channel r) : Silenced channel answer.2 := by
  refine ⟨Nat.le_trans h.1 houtcome.lastChannel_le, fun slot hslot => ?_⟩
  have hpassage := houtcome.passage hbound hslot
  generalize hbefore : r.channel? channel = before at hpassage
  cases hpassage with
  | opened new => exact absurd h.1 (Nat.not_le_of_lt new)
  | same => exact h.2 slot hbefore
  | greeted | bound => exact absurd (h.2 _ hbefore) Bool.false_ne_true
  | retired => rfl

theorem Sound.unsent (h : r.Sound) (hsilenced : Silenced channel r) (call : Call) :
    ∀ message, .send channel message ∉ (r.turn call).actions := by
  intro message hmem
  have hafter := (perform_outcome h.toBound h.staged call).silenced h.toBound hsilenced
  cases hresult : (r.perform call).1 with
  | error error =>
      rw [turn, hresult] at hmem
      contradiction
  | ok actions =>
      rw [turn, hresult] at hmem
      obtain ⟨slot, hslot, hlive⟩ := h.sent_live hresult hmem
      rw [hafter.2 slot hslot] at hlive
      contradiction

theorem Outcome.stays_open (houtcome : Outcome r call answer) (hbound : r.Bound)
    (hcall : call ≠ .closeChannel channel) (hopen : (r.channel? channel).isSome) :
    (answer.2.channel? channel).isSome := by
  cases houtcome with
  | refused | ignored | denied | accepted | repeated | responded | unheard | absent => exact hopen
  | opened =>
      rw [channel?_openChannel]
      split
      · rfl
      · exact hopen
  | closed other =>
      rw [channel?_closeChannel, if_neg]
      · exact hopen
      · rintro rfl
        exact hcall rfl
  | greeted =>
      rw [channel?_modifyChannel]
      split <;> simpa using hopen
  | created created =>
      change ((r.bind created r.nextName).channel? channel).isSome
      rw [channel?_bind]
      split <;> simpa using hopen
  | resumed _ _ _ _ here found =>
      rw [channel?_moved (hbound.channel_ne (sessionOf?_of_slot here) found)]
      split
      · simpa using hopen
      · split <;> simpa using hopen
  | dropped =>
      rw [channel?_dropped]
      split <;> simpa using hopen

theorem handle_retired (h : Retired channel r) (message : ClientMessage) :
    r.handle channel message = (.ok [], r) := by
  obtain ⟨slot, hslot, hretired⟩ := h
  rw [handle, hslot]
  exact if_pos hretired

theorem Retired.silenced (h : Retired channel r) (hbound : r.Bound) : Silenced channel r := by
  obtain ⟨slot, hslot, hretired⟩ := h
  refine ⟨hbound.opened channel slot hslot, fun same hsame => ?_⟩
  obtain rfl := Option.some.inj (hslot.symm.trans hsame)
  exact hretired

theorem Outcome.retired (houtcome : Outcome r call answer) (hbound : r.Bound)
    (hcall : call ≠ .closeChannel channel) (h : Retired channel r) :
    Retired channel answer.2 := by
  have hsilenced := h.silenced hbound
  obtain ⟨slot, hslot, -⟩ := h
  have hopen : (r.channel? channel).isSome := Option.isSome_iff_exists.mpr ⟨slot, hslot⟩
  obtain ⟨later, hlater⟩ := Option.isSome_iff_exists.mp (houtcome.stays_open hbound hcall hopen)
  exact ⟨later, hlater, (houtcome.silenced hbound hsilenced).2 later hlater⟩

theorem Sound.retired_dropped (h : r.Sound) (found : r.session? sessionId = some s)
    (here : s.channel = some channel) : Retired channel (r.dropped sessionId s) := by
  refine ⟨retire ⟨some s.profile, some sessionId, false⟩, ?_, rfl⟩
  rw [channel?_dropped, if_pos here, h.bound_slot found here]
  rfl

/-! ## Runs after a drop -/

theorem Sound.spent_run (h : r.Sound) (hspent : Spent sessionId r) (later : List Call) :
    (r.run later).session? sessionId = none ∧
      ∀ t ∈ r.turns later, ∀ action ∈ t.actions, Action.named? action ≠ some sessionId := by
  obtain ⟨-, hgone, hturns⟩ := h.keeps later hspent fun r call _ hr =>
    (perform_outcome hr.toBound hr.staged call).spent hr.toBound
  refine ⟨hgone.2, fun t ht => ?_⟩
  obtain ⟨hbefore, hspent, he⟩ := hturns t ht
  rw [he]
  exact (perform_outcome hbefore.toBound hbefore.staged t.call).unnamed hbefore.toBound hspent

theorem Sound.silenced_run (h : r.Sound) (hsilenced : Silenced channel r) (later : List Call) :
    ∀ t ∈ r.turns later, ∀ message, .send channel message ∉ t.actions := by
  obtain ⟨-, -, hturns⟩ := h.keeps later hsilenced fun r call _ hr =>
    (perform_outcome hr.toBound hr.staged call).silenced hr.toBound
  intro t ht
  obtain ⟨hbefore, hquiet, he⟩ := hturns t ht
  rw [he]
  exact hbefore.unsent hquiet t.call

theorem Sound.retired_run (h : r.Sound) (hretired : Retired channel r) {later : List Call}
    (hopen : .closeChannel channel ∉ later) : Retired channel (r.run later) := by
  obtain ⟨-, hstill, -⟩ := h.keeps later hretired fun r call hmem hr =>
    (perform_outcome hr.toBound hr.staged call).retired hr.toBound fun he => hopen (he ▸ hmem)
  exact hstill

/-! ## What a drop comes to -/

/-- The names under which sessions are created are all different, and no session takes the place of
another one.  A session that is dropped is gone for good.  Nothing is said to it or heard of it, to
ask for it is in vain, and the channel that it had is left alone. -/
theorem dropped_for_good (stem : String) (calls : List Call) :
    let turns := (Remote.new stem).turns calls
    let r := (Remote.new stem).run calls
    (announcedIn turns).Nodup ∧
    (∀ channel,
      (∀ name ∈ (r.turn (.handle channel .createSession)).announced, r.session? name = none) ∧
      ∀ name s, r.session? name = some s →
        (r.handle channel .createSession).2.session? name = some s) ∧
    ∀ sessionId actions later, (r.dropSession sessionId).1 = .ok actions →
      let dropped := (r.dropSession sessionId).2
      let after := dropped.run later
      (∀ payload, after.respond sessionId payload = (.error (.unknownSession sessionId), after)) ∧
      after.dropSession sessionId = (.error (.unknownSession sessionId), after) ∧
      (∀ channel profile responseCursor,
        after.channel? channel = some { profile := some profile } →
          after.handle channel (.attach sessionId responseCursor) =
            (.ok [.send channel .failure], after)) ∧
      (∀ t ∈ dropped.turns later, ∀ action ∈ t.actions,
        Action.named? action ≠ some sessionId) ∧
      ∀ channel, r.channelOf? sessionId = some channel →
        (∀ t ∈ dropped.turns later, ∀ message, .send channel message ∉ t.actions) ∧
        (.closeChannel channel ∉ later →
          ∀ message, after.handle channel message = (.ok [], after)) := by
  intro turns r
  have h : History stem turns r := history_run stem calls
  refine ⟨h.announced_nodup, fun channel => ⟨fun name hname => ?_,
    fun name s => h.sound.session?_createSession channel⟩, ?_⟩
  · have houtcome := perform_outcome h.sound.toBound h.sound.staged (.handle channel .createSession)
    rw [(houtcome.announced_fresh hname).1]
    exact h.sound.session?_nextName
  · intro sessionId actions later hdropped dropped after
    obtain ⟨s, found, hstate, hspent⟩ := h.sound.spent_dropped hdropped
    have hsound : dropped.Sound := h.sound.perform (.dropSession sessionId)
    obtain ⟨hgone, hunnamed⟩ := hsound.spent_run hspent later
    refine ⟨respond_absent hgone, dropSession_absent hgone, ?_, hunnamed, ?_⟩
    · exact fun channel profile responseCursor here => attach_absent hgone here responseCursor
    · intro channel hchannel
      rw [channelOf?_of_session found] at hchannel
      have hretired : Retired channel dropped := by
        change Retired channel (r.dropSession sessionId).2
        rw [hstate]
        exact h.sound.retired_dropped found hchannel
      exact ⟨hsound.silenced_run (hretired.silenced hsound.toBound) later,
        fun hopen => handle_retired (hsound.retired_run hretired hopen)⟩

def single : List Call :=
  [.openChannel, .handle 1 (.hello ⟨"u", "g"⟩), .handle 1 .createSession, .respond "s:1" .null]

def aftermath : List Call :=
  [.handle 1 (.request ⟨1000, 0, .null⟩), .openChannel, .handle 2 (.hello ⟨"u", "g"⟩),
    .handle 2 .createSession, .openChannel, .handle 3 (.hello ⟨"u", "g"⟩)]

theorem single_dropped :
    let r := (Remote.new "s").run single
    let after := (r.dropSession "s:1").2.run aftermath
    (r.dropSession "s:1").1 = .ok [.shutdown 1] ∧ after.channelOf? "s:2" = some 2 ∧
      after.respond "s:1" .null = (.error (.unknownSession "s:1"), after) ∧
      after.handle 3 (.attach "s:1" 0) = (.ok [.send 3 .failure], after) ∧
      after.handle 1 (.request ⟨1000, 0, .null⟩) = (.ok [], after) := by
  intro r after
  have hdropped : (r.dropSession "s:1").1 = .ok [.shutdown 1] := rfl
  obtain ⟨-, -, h⟩ := dropped_for_good "s" single
  obtain ⟨hrespond, -, hattach, -, hchannel⟩ := h "s:1" [.shutdown 1] aftermath hdropped
  obtain ⟨-, hignored⟩ := hchannel 1 rfl
  exact ⟨hdropped, by decide +kernel, hrespond .null, hattach 3 ⟨"u", "g"⟩ 0 rfl,
    hignored (by decide) (.request ⟨1000, 0, .null⟩)⟩

end ResumableSession.Remote
