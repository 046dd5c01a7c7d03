import ResumableSession.Proofs.Remote.Soundness

/-!
Calls that concern different sessions.

A call that concerns one session looks at nothing but this session, the channel that it has and the
channel of the call, and it changes nothing else.  `Local` is about such changes: two of them
commute if they touch nothing in common.
-/

namespace ResumableSession

namespace Table

variable {κ α : Type}

def revise (change : κ → α → Option α) (table : Table κ α) : Table κ α :=
  table.filterMap fun entry => (change entry.1 entry.2).map (entry.1, ·)

theorem revise_some (table : Table κ α) : revise (fun _ => some) table = table := by
  simp [revise]

theorem revise_revise (first second : κ → α → Option α) (table : Table κ α) :
    revise second (revise first table) =
      revise (fun key value => (first key value).bind (second key)) table := by
  simp only [revise, List.filterMap_filterMap]
  congr 1
  funext entry
  cases first entry.1 entry.2 <;> rfl

theorem revise_comm {first second : κ → α → Option α}
    (hapart : ∀ key, first key = some ∨ second key = some) (table : Table κ α) :
    revise second (revise first table) = revise first (revise second table) := by
  rw [revise_revise, revise_revise]
  congr 1
  funext key value
  rcases hapart key with hfirst | hsecond
  · simp [hfirst]
  · simp [hsecond]

variable [DecidableEq κ]

def only (key : κ) (change : α → Option α) (other : κ) (value : α) : Option α :=
  if other = key then change value else some value

theorem only_ne {key other : κ} (hne : other ≠ key) (change : α → Option α) :
    only key change other = some :=
  funext fun _ => if_neg hne

theorem modify_eq_revise (key : κ) (change : α → α) (table : Table κ α) :
    modify key change table = revise (only key fun value => some (change value)) table := by
  induction table with
  | nil => rfl
  | cons entry rest ih =>
      by_cases hk : entry.1 = key <;> simp [modify, revise, only, hk, ih]

theorem erase_eq_revise (key : κ) (table : Table κ α) :
    erase key table = revise (only key fun _ => none) table := by
  induction table with
  | nil => rfl
  | cons entry rest ih =>
      by_cases hk : entry.1 = key <;> simp [erase, revise, only, hk, ih]

theorem find?_revise {change : κ → α → Option α} {key : κ} (hkept : change key = some)
    (table : Table κ α) : find? key (revise change table) = find? key table := by
  induction table with
  | nil => rfl
  | cons entry rest ih =>
      obtain ⟨other, value⟩ := entry
      by_cases hk : other = key
      · subst hk
        simp [revise, find?, hkept]
      · have hrest : find? key (revise change ((other, value) :: rest)) =
            find? key (revise change rest) := by
          cases hchange : change other value <;> simp [revise, find?, hchange, hk]
        rw [hrest, ih, find?, if_neg hk]

end Table

namespace Remote

/-! ## Local changes -/

def revise (channels : Nat → Channel → Option Channel)
    (sessions : String → RemoteSession → Option RemoteSession) (r : Remote) : Remote :=
  { r with
    channels := Table.revise channels r.channels
    sessions := Table.revise sessions r.sessions }

def Local (sessionId : String) (reach : List Nat) (change : Remote → Remote) : Prop :=
  ∃ channels sessions, (∀ channel, channel ∉ reach → channels channel = some) ∧
    (∀ name, name ≠ sessionId → sessions name = some) ∧
    ∀ r, change r = r.revise channels sessions

namespace Local

variable {sessionId other : String} {reach others : List Nat} {channel : Nat}
  {change first second : Remote → Remote}

theorem comp (hsecond : Local sessionId reach second) (hfirst : Local sessionId reach first) :
    Local sessionId reach (second ∘ first) := by
  obtain ⟨channels, sessions, hchannels, hsessions, hchange⟩ := hfirst
  obtain ⟨channels', sessions', hchannels', hsessions', hchange'⟩ := hsecond
  refine ⟨fun channel slot => (channels channel slot).bind (channels' channel),
    fun name s => (sessions name s).bind (sessions' name), ?_, ?_, fun r => ?_⟩
  · intro channel houtside
    funext slot
    simp [hchannels channel houtside, hchannels' channel houtside]
  · intro name hother
    funext s
    simp [hsessions name hother, hsessions' name hother]
  · simp [hchange, hchange', revise, Table.revise_revise]

theorem modifySession (sessionId : String) (reach : List Nat)
    (change : RemoteSession → RemoteSession) :
    Local sessionId reach (Remote.modifySession sessionId change) :=
  ⟨fun _ => some, Table.only sessionId fun s => some (change s), fun _ _ => rfl,
    fun _ hne => Table.only_ne hne _,
    fun r => by simp [Remote.modifySession, revise, Table.revise_some, Table.modify_eq_revise]⟩

theorem modifyChannel (hreach : channel ∈ reach) (sessionId : String)
    (change : Channel → Channel) :
    Local sessionId reach (Remote.modifyChannel channel change) := by
  refine ⟨Table.only channel fun slot => some (change slot), fun _ => some,
    fun other houtside => Table.only_ne ?_ _, fun _ _ => rfl,
    fun r => by simp [Remote.modifyChannel, revise, Table.revise_some, Table.modify_eq_revise]⟩
  rintro rfl
  exact houtside hreach

theorem eraseSession (sessionId : String) (reach : List Nat) :
    Local sessionId reach fun r => { r with sessions := Table.erase sessionId r.sessions } :=
  ⟨fun _ => some, Table.only sessionId fun _ => none, fun _ _ => rfl,
    fun _ hne => Table.only_ne hne _,
    fun r => by simp [revise, Table.revise_some, Table.erase_eq_revise]⟩

theorem eraseChannel (hreach : channel ∈ reach) (sessionId : String) :
    Local sessionId reach fun r => { r with channels := Table.erase channel r.channels } := by
  refine ⟨Table.only channel fun _ => none, fun _ => some,
    fun other houtside => Table.only_ne ?_ _, fun _ _ => rfl,
    fun r => by simp [revise, Table.revise_some, Table.erase_eq_revise]⟩
  rintro rfl
  exact houtside hreach

theorem session?_eq (h : Local sessionId reach change) (hne : other ≠ sessionId) (r : Remote) :
    (change r).session? other = r.session? other := by
  obtain ⟨channels, sessions, -, hsessions, hchange⟩ := h
  rw [hchange]
  exact Table.find?_revise (hsessions other hne) r.sessions

theorem channel?_eq (h : Local sessionId reach change) (houtside : channel ∉ reach)
    (r : Remote) : (change r).channel? channel = r.channel? channel := by
  obtain ⟨channels, sessions, hchannels, -, hchange⟩ := h
  rw [hchange]
  exact Table.find?_revise (hchannels channel houtside) r.channels

theorem comm (hfirst : Local sessionId reach first) (hsecond : Local other others second)
    (hne : sessionId ≠ other) (hapart : ∀ channel ∈ reach, channel ∉ others) (r : Remote) :
    second (first r) = first (second r) := by
  obtain ⟨channels, sessions, hchannels, hsessions, hchange⟩ := hfirst
  obtain ⟨channels', sessions', hchannels', hsessions', hchange'⟩ := hsecond
  have hc : ∀ channel, channels channel = some ∨ channels' channel = some := by
    intro channel
    by_cases hmem : channel ∈ reach
    · exact .inr (hchannels' channel (hapart channel hmem))
    · exact .inl (hchannels channel hmem)
  have hs : ∀ name, sessions name = some ∨ sessions' name = some := by
    intro name
    by_cases hname : name = sessionId
    · exact .inr (hsessions' name (hname ▸ hne))
    · exact .inl (hsessions name hname)
  simp [hchange, hchange', revise, Table.revise_comm hc, Table.revise_comm hs]

end Local

/-! ## Calls that concern a session -/

def Call.channel? : Call → Option Nat
  | .closeChannel channel | .handle channel _ => some channel
  | .openChannel | .respond _ _ | .dropSession _ => none

/-- The calls that concern a session: answers to it and its drop, requests on its channel and the
closing of it, and the request to go on over another channel, which has said the right hello and has
no session yet. -/
inductive Concerns (r : Remote) (sessionId : String) (s : RemoteSession) : Call → Prop where
  | respond (payload : Json) : Concerns r sessionId s (.respond sessionId payload)
  | drop : Concerns r sessionId s (.dropSession sessionId)
  | close (channel : Nat) (bound : s.channel = some channel) :
      Concerns r sessionId s (.closeChannel channel)
  | request (channel : Nat) (request : Request) (bound : s.channel = some channel) :
      Concerns r sessionId s (.handle channel (.request request))
  | attach (channel responseCursor : Nat)
      (greeted : r.channel? channel = some { profile := some s.profile }) :
      Concerns r sessionId s (.handle channel (.attach sessionId responseCursor))

def reach (s : RemoteSession) (call : Call) : List Nat :=
  s.channel.toList ++ call.channel?.toList

structure Agree (r other : Remote) (sessionId : String) (reach : List Nat) : Prop where
  session : other.session? sessionId = r.session? sessionId
  channels : ∀ channel ∈ reach, other.channel? channel = r.channel? channel

/-- A call that comes to the same and makes the same change, which is local, in all states that
agree on a session and on some channels. -/
def Confined (r : Remote) (sessionId : String) (reach : List Nat) (call : Call) : Prop :=
  ∃ result change, Local sessionId reach change ∧
    ∀ other : Remote, other.Sound → Agree r other sessionId reach →
      other.perform call = (result, change other)

variable {r : Remote} {sessionId name : String} {s u : RemoteSession} {call later : Call}
  {channel : Nat} {reached : List Nat}

theorem confined_respond (found : r.session? sessionId = some s) (payload : Json) :
    Confined r sessionId reached (.respond sessionId payload) := by
  let response : Response := ⟨s.nextResponseId, s.requestCursor, payload⟩
  refine ⟨.ok (s.channel.toList.map fun channel => .send channel (.response response)), _,
    Local.modifySession sessionId reached fun u =>
      { u with nextResponseId := u.nextResponseId + 1, outbox := u.outbox.push response },
    fun other _ hagree => ?_⟩
  rw [perform, respond, hagree.session, found]

theorem confined_dropSession (found : r.session? sessionId = some s)
    (hreached : ∀ channel, s.channel = some channel → channel ∈ reached) :
    Confined r sessionId reached (.dropSession sessionId) := by
  have hlocal : Local sessionId reached (dropped sessionId s) := by
    have herase := Local.eraseSession sessionId reached
    unfold dropped
    cases hc : s.channel with
    | none => exact herase
    | some old => exact (Local.modifyChannel (hreached old hc) sessionId retire).comp herase
  refine ⟨.ok (s.channel.toList.map .shutdown), _, hlocal, fun other _ hagree => ?_⟩
  rw [perform, dropSession_eq (hagree.session.trans found)]

theorem confined_closeChannel (hchannel : channel ∈ reached)
    (hslot : r.channel? channel = some { profile := some s.profile, sessionId := some sessionId }) :
    Confined r sessionId reached (.closeChannel channel) := by
  have hlocal := (Local.modifySession sessionId reached (detach channel)).comp
    (Local.eraseChannel hchannel sessionId)
  refine ⟨.ok [], _, hlocal, fun other _ hagree => ?_⟩
  rw [perform, closeChannel, hagree.channels channel hchannel, hslot]
  rfl

theorem confined_request (found : r.session? sessionId = some s) (hchannel : channel ∈ reached)
    (hslot : r.channel? channel = some { profile := some s.profile, sessionId := some sessionId })
    (request : Request) : Confined r sessionId reached (.handle channel (.request request)) := by
  have hhandle (other : Remote) (hagree : Agree r other sessionId reached) :
      other.perform (.handle channel (.request request)) =
        if request.id = s.requestCursor then
          (.ok [.deliver sessionId request.id request.payload],
            other.modifySession sessionId (accept (s.outbox.dropBelow request.responseCursor)))
        else
          (.ok [], other.modifySession sessionId
            (release (s.outbox.dropBelow request.responseCursor))) := by
    rw [perform, handle, hagree.channels channel hchannel, hslot]
    simp only [Bool.false_eq_true, if_false, Remote.request, bound, hagree.session, found]
    rfl
  by_cases hnext : request.id = s.requestCursor
  · exact ⟨_, _, Local.modifySession sessionId reached _,
      fun other _ hagree => (hhandle other hagree).trans (if_pos hnext)⟩
  · exact ⟨_, _, Local.modifySession sessionId reached _,
      fun other _ hagree => (hhandle other hagree).trans (if_neg hnext)⟩

theorem confined_attach (found : r.session? sessionId = some s) (hchannel : channel ∈ reached)
    (hreached : ∀ channel, s.channel = some channel → channel ∈ reached)
    (hslot : r.channel? channel = some { profile := some s.profile }) (responseCursor : Nat) :
    Confined r sessionId reached (.handle channel (.attach sessionId responseCursor)) := by
  have hlocal : Local sessionId reached (moved channel sessionId responseCursor s) := by
    have hresumed := Local.modifySession sessionId reached fun _ => resumed channel responseCursor s
    have hbind := Local.modifyChannel hchannel sessionId fun slot =>
      { slot with sessionId := some sessionId }
    unfold moved
    cases hc : s.channel with
    | none => exact hbind.comp hresumed
    | some old =>
        exact hbind.comp ((Local.modifyChannel (hreached old hc) sessionId retire).comp hresumed)
  refine ⟨.ok (s.channel.toList.map .shutdown ++
    resumption channel sessionId (resumed channel responseCursor s)), _, hlocal,
    fun other hsound hagree => ?_⟩
  have hsame := (hagree.channels channel hchannel).trans hslot
  rw [perform, handle, hsame]
  exact attach_eq hsound.toBound (sessionOf?_of_slot hsame) (hagree.session.trans found) _

theorem Sound.confined (h : r.Sound) (found : r.session? sessionId = some s)
    (hconcerns : Concerns r sessionId s call) : Confined r sessionId (reach s call) call := by
  have hown (channel : Nat) (hchannel : s.channel = some channel) : channel ∈ reach s call :=
    List.mem_append_left _ (Option.mem_toList.mpr hchannel)
  cases hconcerns with
  | respond payload => exact confined_respond found payload
  | drop => exact confined_dropSession found hown
  | close channel bound =>
      exact confined_closeChannel (hown channel bound) (h.bound_slot found bound)
  | request channel request bound =>
      exact confined_request found (hown channel bound) (h.bound_slot found bound) request
  | attach channel responseCursor greeted =>
      have hchannel : channel ∈ reach s (.handle channel (.attach sessionId responseCursor)) :=
        List.mem_append_right _ (List.mem_singleton.mpr rfl)
      exact confined_attach found hchannel hown greeted responseCursor

/-! ## Two calls -/

/-- A call that concerns one session comes to the same after a call that concerns another one.  It
gets the same answer, and the session is as it was. -/
structure Undisturbed (before after : Remote) (sessionId : String) (call : Call) : Prop where
  result : (after.perform call).1 = (before.perform call).1
  known : ∀ channel, call = .closeChannel channel →
    (after.closeChannel channel).1 = (before.closeChannel channel).1
  session : after.session? sessionId = before.session? sessionId
  bound : ∀ channel,
    after.sessionOf? channel = some sessionId ↔ before.sessionOf? channel = some sessionId

theorem closeChannel_known : (r.closeChannel channel).1 = (r.channel? channel).isSome := by
  unfold closeChannel
  split
  · next hnone => rw [hnone]; rfl
  · next slot hslot =>
      rw [hslot]
      split <;> rfl

theorem Agree.of_local {change : Remote → Remote} {others : List Nat}
    (hlocal : Local name others change) (hne : sessionId ≠ name)
    (hapart : ∀ channel ∈ reached, channel ∉ others) : Agree r (change r) sessionId reached where
  session := hlocal.session?_eq hne r
  channels channel hchannel := hlocal.channel?_eq (hapart channel hchannel) r

theorem Agree.undisturbed {after : Remote} (hagree : Agree r after sessionId (reach s call))
    (h : r.Sound) (hafter : after.Sound) (hconfined : Confined r sessionId (reach s call) call) :
    Undisturbed r after sessionId call where
  result := by
    obtain ⟨result, change, -, hperform⟩ := hconfined
    rw [hperform after hafter hagree, hperform r h ⟨rfl, fun _ _ => rfl⟩]
  known channel hcall := by
    have hchannel : channel ∈ reach s call :=
      List.mem_append_right _ (by rw [hcall]; exact List.mem_singleton.mpr rfl)
    rw [closeChannel_known, closeChannel_known, hagree.channels channel hchannel]
  session := hagree.session
  bound channel := by
    rw [hafter.agree, h.agree, channelOf?, channelOf?, hagree.session]

theorem Concerns.not_mem_reach (h : r.Sound) (hne : sessionId ≠ name)
    (found : r.session? sessionId = some s) (hchannel : s.channel = some channel)
    (other : r.session? name = some u) (hconcerns : Concerns r name u call) :
    channel ∉ reach u call := by
  have hslot := h.bound_slot found hchannel
  have hown : u.channel ≠ some channel := by
    intro hsame
    rw [h.bound_slot other hsame] at hslot
    simp only [Option.some.injEq, Channel.mk.injEq] at hslot
    exact hne hslot.2.1.symm
  have hcall : call.channel? ≠ some channel := by
    intro hsame
    cases hconcerns with
    | respond | drop => contradiction
    | close _ bound | request _ _ bound => exact hown (bound.trans hsame)
    | attach _ _ greeted =>
        obtain rfl := Option.some.inj hsame
        rw [hslot] at greeted
        simp at greeted
  intro hmem
  rcases List.mem_append.mp hmem with hmem | hmem
  · exact hown (Option.mem_toList.mp hmem)
  · exact hcall (Option.mem_toList.mp hmem)

theorem Concerns.apart (h : r.Sound) (hne : sessionId ≠ name)
    (found : r.session? sessionId = some s) (other : r.session? name = some u)
    (hconcerns : Concerns r sessionId s call) (hlater : Concerns r name u later)
    (hchannels : ∀ channel, call.channel? = some channel → later.channel? ≠ some channel) :
    ∀ channel ∈ reach s call, channel ∉ reach u later := by
  intro channel hmem hboth
  rcases List.mem_append.mp hmem with hown | hcall
  · exact hlater.not_mem_reach h hne found (Option.mem_toList.mp hown) other hboth
  · rcases List.mem_append.mp hboth with hown | hsame
    · exact hconcerns.not_mem_reach h hne.symm other (Option.mem_toList.mp hown) found hmem
    · exact hchannels channel (Option.mem_toList.mp hcall) (Option.mem_toList.mp hsame)

/-- Two calls that concern different sessions, and do not come on one channel, can be made in either
order.  Each gets the same answer before the other one and after it, the state is the same in the
end, and neither session is changed by the call that concerns the other one. -/
theorem sessions_independent (stem : String) (calls : List Call) (first second : String)
    (one two : Call) (hne : first ≠ second) :
    let r := (Remote.new stem).run calls
    ∀ s u, r.session? first = some s → r.session? second = some u →
      Concerns r first s one → Concerns r second u two →
      (∀ channel, one.channel? = some channel → two.channel? ≠ some channel) →
      Undisturbed r (r.perform one).2 second two ∧ Undisturbed r (r.perform two).2 first one ∧
        ((r.perform one).2.perform two).2 = ((r.perform two).2.perform one).2 := by
  intro r s u hfirst hsecond hone htwo hchannels
  have h : r.Sound := (Sound.new stem).run calls
  have hapart := hone.apart h hne hfirst hsecond htwo hchannels
  have hapart' : ∀ channel ∈ reach u two, channel ∉ reach s one :=
    fun channel htwo hone => hapart channel hone htwo
  obtain ⟨result, change, hlocal, hperform⟩ := h.confined hfirst hone
  obtain ⟨result', change', hlocal', hperform'⟩ := h.confined hsecond htwo
  have hone' : r.perform one = (result, change r) := hperform r h ⟨rfl, fun _ _ => rfl⟩
  have htwo' : r.perform two = (result', change' r) := hperform' r h ⟨rfl, fun _ _ => rfl⟩
  have hagree : Agree r (change r) second (reach u two) := .of_local hlocal hne.symm hapart'
  have hagree' : Agree r (change' r) first (reach s one) := .of_local hlocal' hne hapart
  have hsound : (change r).Sound := by
    have hafter := h.perform one
    rwa [hone'] at hafter
  have hsound' : (change' r).Sound := by
    have hafter := h.perform two
    rwa [htwo'] at hafter
  rw [hone', htwo']
  refine ⟨hagree.undisturbed h hsound (h.confined hsecond htwo),
    hagree'.undisturbed h hsound' (h.confined hfirst hone), ?_⟩
  rw [hperform' _ hsound hagree, hperform _ hsound' hagree']
  exact hlocal.comm hlocal' hne hapart r

def pair : List Call :=
  [.openChannel, .handle 1 (.hello ⟨"u", "g"⟩), .handle 1 .createSession, .respond "s:1" .null,
    .openChannel, .handle 2 (.hello ⟨"v", "g"⟩), .handle 2 .createSession, .openChannel,
    .handle 3 (.hello ⟨"u", "g"⟩)]

theorem pair_independent :
    let r := (Remote.new "s").run pair
    let move := Call.handle 3 (.attach "s:1" 0)
    let drop := Call.dropSession "s:2"
    ((r.perform drop).2.perform move).1 = .ok [.shutdown 1,
        .send 3 (.success "s:1" 1000 ⟨"u", "g"⟩), .send 3 (.response ⟨0, 1000, .null⟩)] ∧
      ((r.perform move).2.perform drop).1 = .ok [.shutdown 2] ∧
      ((r.perform move).2.perform drop).2 = ((r.perform drop).2.perform move).2 := by
  intro r move drop
  have hmove : (r.perform move).1 = .ok [.shutdown 1,
      .send 3 (.success "s:1" 1000 ⟨"u", "g"⟩), .send 3 (.response ⟨0, 1000, .null⟩)] := rfl
  have hdrop : (r.perform drop).1 = .ok [.shutdown 2] := rfl
  obtain ⟨hsecond, hfirst, hsame⟩ := sessions_independent "s" pair "s:1" "s:2" move drop (by decide)
    { profile := ⟨"u", "g"⟩, channel := some 1, nextResponseId := 1,
      outbox := ⟨[⟨0, 1000, .null⟩]⟩ }
    { profile := ⟨"v", "g"⟩, channel := some 2 } (by decide +kernel) (by decide +kernel)
    (.attach 3 0 (by decide +kernel)) .drop nofun
  exact ⟨hfirst.result.trans hmove, hsecond.result.trans hdrop, hsame⟩

end Remote

end ResumableSession
