import ResumableSession.Proofs.Remote.Soundness

/-!
What the other side was asked so far.

A turn is a call with the state that it found and the answer that it got, and a history is the
list of all turns since the beginning.  Facts about whole histories are proved one turn at a time,
by induction on `History`.

`Passage` lists what a turn makes of a channel.  A channel is unbound until a session goes on over
it.  It never becomes unbound again, and so it is never bound to a second session.
-/

namespace ResumableSession.Remote

structure Turn where
  before : Remote
  call : Call
  result : Except RemoteError (List Action)

def Turn.actions (t : Turn) : List Action :=
  match t.result with
  | .ok actions => actions
  | .error _ => []

def turn (call : Call) (r : Remote) : Turn :=
  ⟨r, call, (r.perform call).1⟩

def turns (calls : List Call) (r : Remote) : List Turn :=
  match calls with
  | [] => []
  | call :: rest => r.turn call :: turns rest (r.perform call).2

/-- The turns of a state that started without sessions and without channels. -/
inductive History (stem : String) : List Turn → Remote → Prop where
  | new : History stem [] (Remote.new stem)
  | turn {turns : List Turn} {r : Remote} (earlier : History stem turns r) (call : Call) :
      History stem (turns ++ [r.turn call]) (r.perform call).2

namespace History

variable {stem : String} {turns : List Turn} {r : Remote}

theorem run (h : History stem turns r) (calls : List Call) :
    History stem (turns ++ r.turns calls) (r.run calls) := by
  induction calls generalizing turns r with
  | nil =>
      rw [Remote.turns, List.append_nil]
      exact h
  | cons call rest ih =>
      have hrest := ih (h.turn call)
      rw [List.append_assoc] at hrest
      exact hrest

theorem sound (h : History stem turns r) : r.Sound := by
  induction h with
  | new => exact .new stem
  | turn earlier call ih => exact ih.perform call

theorem of_mem (h : History stem turns r) {t : Turn} (ht : t ∈ turns) :
    ∃ earlier after, earlier ++ [t] <+: turns ∧ History stem earlier t.before ∧
      History stem (earlier ++ [t]) after ∧ Outcome t.before t.call (t.result, after) := by
  induction h with
  | new => contradiction
  | @turn turns r earlier call ih =>
      rcases List.mem_append.mp ht with ht | ht
      · obtain ⟨first, after, hprefix, hturn⟩ := ih ht
        exact ⟨first, after, hprefix.trans (List.prefix_append ..), hturn⟩
      · obtain rfl := List.mem_singleton.mp ht
        exact ⟨turns, _, List.prefix_rfl, earlier, earlier.turn call,
          perform_outcome earlier.sound.toBound earlier.sound.staged call⟩

end History

theorem history_run (stem : String) (calls : List Call) :
    History stem ((Remote.new stem).turns calls) ((Remote.new stem).run calls) :=
  History.new.run calls

variable {r : Remote} {call : Call} {answer : Answer} {channel : Nat} {sessionId : String}

/-! ## Names that were given out -/

def Issued (sessionId : String) (r : Remote) : Prop :=
  ∃ serial ≤ r.serial, sessionId = sessionName r.stem serial

theorem not_issued_nextName (r : Remote) : ¬ Issued r.nextName r := by
  rintro ⟨serial, hle, hname⟩
  have := sessionName_injective hname
  omega

theorem issued_closeChannel (h : Issued sessionId r) :
    Issued sessionId (r.closeChannel channel).2 := by
  unfold closeChannel
  split
  · exact h
  · split <;> exact h

theorem Outcome.issued (houtcome : Outcome r call answer) (h : Issued sessionId r) :
    Issued sessionId answer.2 := by
  cases houtcome with
  | closed => exact issued_closeChannel h
  | created =>
      obtain ⟨serial, hle, hname⟩ := h
      exact ⟨serial, Nat.le_succ_of_le hle, hname⟩
  | resumed _ _ _ s =>
      unfold moved
      cases s.channel <;> exact h
  | dropped _ s =>
      unfold Remote.dropped
      cases s.channel <;> exact h
  | _ => exact h

/-! ## What becomes of a channel -/

def Turn.greeting? (channel : Nat) (t : Turn) : Option Profile :=
  match t.result, t.call with
  | .ok _, .handle other (.hello profile) => if other = channel then some profile else none
  | _, _ => none

inductive Passage (t : Turn) (channel : Nat) : Option Channel → Channel → Prop where
  | opened (new : t.before.lastChannel < channel) (silent : t.greeting? channel = none) :
      Passage t channel none {}
  | same {slot : Channel} (known : t.greeting? channel = none ∨ slot.profile.isSome) :
      Passage t channel (some slot) slot
  | greeted (profile : Profile) (greeting : t.greeting? channel = some profile) :
      Passage t channel (some {}) { profile := some profile }
  | bound (profile : Profile) (sessionId : String) (silent : t.greeting? channel = none) :
      Passage t channel (some { profile := some profile })
        { profile := some profile, sessionId := some sessionId }
  | retired {slot : Channel} (silent : t.greeting? channel = none) :
      Passage t channel (some slot) (retire slot)

variable {slot : Channel}

theorem Outcome.passage (houtcome : Outcome r call answer) (hbound : r.Bound)
    (hslot : answer.2.channel? channel = some slot) :
    Passage ⟨r, call, answer.1⟩ channel (r.channel? channel) slot := by
  have stays {t : Turn} (hsame : r.channel? channel = some slot)
      (hsilent : t.greeting? channel = none) : Passage t channel (r.channel? channel) slot := by
    rw [hsame]
    exact .same (.inl hsilent)
  have leaves {t : Turn} (hleft : (r.channel? channel).map retire = some slot)
      (hsilent : t.greeting? channel = none) : Passage t channel (r.channel? channel) slot := by
    obtain ⟨old, hold, rfl⟩ := Option.map_eq_some_iff.mp hleft
    rw [hold]
    exact .retired hsilent
  cases houtcome with
  | refused | denied | accepted | repeated | responded | unheard | absent => exact stays hslot rfl
  | opened =>
      rw [channel?_openChannel] at hslot
      split at hslot
      · next he =>
          obtain rfl := Option.some.inj hslot
          rw [he, hbound.channel?_next]
          exact .opened (Nat.lt_succ_self _) rfl
      · exact stays hslot rfl
  | closed closed =>
      rw [channel?_closeChannel] at hslot
      split at hslot
      · contradiction
      · exact stays hslot rfl
  | ignored other message profile here =>
      by_cases he : other = channel
      · rw [← he, here] at hslot ⊢
        obtain rfl := Option.some.inj hslot
        exact .same (.inr rfl)
      · refine stays hslot ?_
        cases message with
        | hello => exact if_neg he
        | _ => rfl
  | greeted greeted profile here =>
      rw [channel?_modifyChannel] at hslot
      split at hslot
      · next he =>
          rw [he, here] at hslot ⊢
          obtain rfl := Option.some.inj hslot
          exact .greeted profile (if_pos rfl)
      · next hne => exact stays hslot (if_neg (Ne.symm hne))
  | created created profile here =>
      change (r.bind created r.nextName).channel? channel = some slot at hslot
      rw [channel?_bind] at hslot
      split at hslot
      · next he =>
          rw [he, here] at hslot ⊢
          obtain rfl := Option.some.inj hslot
          exact .bound profile r.nextName rfl
      · exact stays hslot rfl
  | resumed resumed sessionId responseCursor s here found =>
      rw [channel?_moved (hbound.channel_ne (sessionOf?_of_slot here) found)] at hslot
      split at hslot
      · next he =>
          rw [he, here] at hslot ⊢
          obtain rfl := Option.some.inj hslot
          exact .bound s.profile sessionId rfl
      · split at hslot
        · exact leaves hslot rfl
        · exact stays hslot rfl
  | dropped sessionId s found =>
      rw [channel?_dropped] at hslot
      split at hslot
      · exact leaves hslot rfl
      · exact stays hslot rfl

theorem Outcome.lastChannel_le (houtcome : Outcome r call answer) :
    r.lastChannel ≤ answer.2.lastChannel := by
  cases houtcome with
  | opened => exact Nat.le_succ _
  | closed => exact Nat.le_of_eq lastChannel_closeChannel.symm
  | resumed => exact Nat.le_of_eq (lastChannel_moved _).symm
  | dropped => exact Nat.le_of_eq lastChannel_dropped.symm
  | _ => exact Nat.le_refl _

/-! ## Channels that are unbound -/

def Unbound (channel : Nat) (r : Remote) : Prop :=
  r.lastChannel < channel ∨
    ∃ slot, r.channel? channel = some slot ∧ slot.retired = false ∧ slot.sessionId = none

theorem Outcome.unbound (houtcome : Outcome r call answer) (hbound : r.Bound)
    (h : Unbound channel answer.2) : Unbound channel r := by
  rcases h with hlt | ⟨slot, hslot, hlive, hfree⟩
  · exact .inl (Nat.lt_of_le_of_lt houtcome.lastChannel_le hlt)
  · have hpassage := houtcome.passage hbound hslot
    generalize hbefore : r.channel? channel = before at hpassage
    cases hpassage with
    | opened new => exact .inl new
    | same => exact .inr ⟨slot, hbefore, hlive, hfree⟩
    | greeted => exact .inr ⟨{}, hbefore, rfl, rfl⟩
    | bound | retired => contradiction

theorem Outcome.bound_or_unbound (houtcome : Outcome r call answer) (hbound : r.Bound)
    (h : answer.2.sessionOf? channel = some sessionId) :
    r.sessionOf? channel = some sessionId ∨ Unbound channel r := by
  obtain ⟨slot, hslot, hid⟩ := Option.bind_eq_some_iff.mp h
  have hpassage := houtcome.passage hbound hslot
  generalize hbefore : r.channel? channel = before at hpassage
  cases hpassage with
  | same => exact .inl ((sessionOf?_of_slot hbefore).trans hid)
  | bound => exact .inr (.inr ⟨_, hbefore, rfl, rfl⟩)
  | opened | greeted | retired => contradiction

theorem Bound.not_unbound (h : r.Bound) (hof : r.sessionOf? channel = some sessionId) :
    ¬ Unbound channel r := by
  obtain ⟨slot, hslot, hid⟩ := Option.bind_eq_some_iff.mp hof
  rintro (hunopened | ⟨other, hother, -, hfree⟩)
  · have := h.opened channel slot hslot
    omega
  · obtain rfl := Option.some.inj (hslot.symm.trans hother)
    rw [hid] at hfree
    contradiction

end ResumableSession.Remote
