import ResumableSession.Remote.Step

/-!
Which session a channel is bound to, and which channel a session.

Both tables of the other side hold this, each from its own end, and `Bound` says that they agree.
A channel that was retired is bound to nothing, and the names of the sessions are those that were
given out so far.
-/

namespace ResumableSession

namespace Table

variable {κ α : Type} [DecidableEq κ]

theorem find?_insert [LT κ] [DecidableLT κ] (key other : κ) (value : α) (table : Table κ α) :
    find? other (insert key value table) =
      if other = key then some value else find? other table := by
  split
  · next h => rw [h, find?_insert_self]
  · next h => rw [find?_insert_ne h]

theorem find?_modify (key other : κ) (change : α → α) (table : Table κ α) :
    find? other (modify key change table) =
      if other = key then (find? other table).map change else find? other table := by
  split
  · next h => rw [h, find?_modify_self]
  · next h => rw [find?_modify_ne h]

theorem find?_erase (key other : κ) (table : Table κ α) :
    find? other (erase key table) = if other = key then none else find? other table := by
  split
  · next h => rw [h, find?_erase_self]
  · next h => rw [find?_erase_ne h]

end Table

namespace Remote

def sessionOf? (channel : Nat) (r : Remote) : Option String :=
  (r.channel? channel).bind (·.sessionId)

variable {r : Remote} {channel other : Nat} {sessionId name : String}

/-! ## Look-ups after a change -/

@[simp] theorem channel?_modifySession (change : RemoteSession → RemoteSession) :
    (r.modifySession sessionId change).channel? other = r.channel? other := rfl

@[simp] theorem sessionOf?_modifySession (change : RemoteSession → RemoteSession) :
    (r.modifySession sessionId change).sessionOf? other = r.sessionOf? other := rfl

theorem session?_modifySession (change : RemoteSession → RemoteSession) :
    (r.modifySession sessionId change).session? name =
      if name = sessionId then (r.session? name).map change else r.session? name :=
  Table.find?_modify ..

theorem session?_modifySession_of_session {s : RemoteSession} (hs : r.session? sessionId = some s)
    (change : RemoteSession → RemoteSession) :
    (r.modifySession sessionId change).session? name =
      if name = sessionId then some (change s) else r.session? name := by
  rw [session?_modifySession]
  split
  · next he => rw [he, hs, Option.map_some]
  · rfl

theorem channel?_modifyChannel (change : Channel → Channel) :
    (r.modifyChannel channel change).channel? other =
      if other = channel then (r.channel? other).map change else r.channel? other :=
  Table.find?_modify ..

theorem channelOf?_eq_some :
    r.channelOf? sessionId = some channel ↔
      ∃ s, r.session? sessionId = some s ∧ s.channel = some channel :=
  Option.bind_eq_some_iff

theorem sessionOf?_of_slot {slot : Channel} (h : r.channel? channel = some slot) :
    r.sessionOf? channel = slot.sessionId := by
  rw [sessionOf?, h, Option.bind_some]

theorem channelOf?_of_session {s : RemoteSession} (h : r.session? sessionId = some s) :
    r.channelOf? sessionId = s.channel := by
  rw [channelOf?, h, Option.bind_some]

theorem sessionOf?_bind {slot : Channel} (h : r.channel? channel = some slot) :
    (r.bind channel sessionId).sessionOf? other =
      if other = channel then some sessionId else r.sessionOf? other := by
  simp only [sessionOf?, bind, channel?_modifyChannel]
  split
  · next he => rw [he, h, Option.map_some, Option.bind_some]
  · rfl

/-! ## Names of sessions -/

def sessionName (stem : String) (serial : Nat) : String :=
  s!"{stem}:{serial}"

theorem toList_sessionName (stem : String) (serial : Nat) :
    (sessionName stem serial).toList = stem.toList ++ ':' :: Nat.toDigits 10 serial := by
  simp [sessionName, toString, Nat.toList_repr]

theorem sessionName_injective {stem : String} {m n : Nat}
    (h : sessionName stem m = sessionName stem n) : m = n := by
  have h := congrArg String.toList h
  rw [toList_sessionName, toList_sessionName] at h
  obtain ⟨-, h⟩ := List.cons.inj (List.append_cancel_left h)
  rw [← Nat.ofDigitChars_toDigits (b := 10) (n := m) (by omega) (by omega), h,
    Nat.ofDigitChars_toDigits (by omega) (by omega)]

def nextName (r : Remote) : String :=
  sessionName r.stem (r.serial + 1)

/-! ## Agreement of the tables -/

structure Bound (r : Remote) : Prop where
  agree : ∀ channel sessionId,
    r.sessionOf? channel = some sessionId ↔ r.channelOf? sessionId = some channel
  retired : ∀ channel slot, r.channel? channel = some slot → slot.retired = true →
    slot.sessionId = none
  opened : ∀ channel slot, r.channel? channel = some slot → channel ≤ r.lastChannel
  named : ∀ sessionId s, r.session? sessionId = some s →
    ∃ serial ≤ r.serial, sessionId = sessionName r.stem serial

namespace Bound

theorem session?_nextName (h : r.Bound) : r.session? r.nextName = none := by
  cases hs : r.session? r.nextName with
  | none => rfl
  | some s =>
      obtain ⟨serial, hle, hname⟩ := h.named _ s hs
      have := sessionName_injective hname
      omega

theorem channel?_next (h : r.Bound) : r.channel? (r.lastChannel + 1) = none := by
  cases hslot : r.channel? (r.lastChannel + 1) with
  | none => rfl
  | some slot =>
      have := h.opened _ slot hslot
      omega

theorem new (stem : String) : (Remote.new stem).Bound where
  agree _ _ := ⟨nofun, nofun⟩
  retired _ _ := nofun
  opened _ _ := nofun
  named _ _ := nofun

theorem modifySession (h : r.Bound) {change : RemoteSession → RemoteSession}
    (hkeep : ∀ s, (change s).channel = s.channel) : (r.modifySession sessionId change).Bound where
  agree channel name := by
    rw [sessionOf?_modifySession, h.agree, channelOf?, channelOf?, session?_modifySession]
    split
    · cases r.session? name with
      | none => rfl
      | some s => rw [Option.map_some, Option.bind_some, Option.bind_some, hkeep]
    · rfl
  retired := h.retired
  opened := h.opened
  named name s hs := by
    rw [session?_modifySession] at hs
    split at hs
    · obtain ⟨old, hold, -⟩ := Option.map_eq_some_iff.mp hs
      exact h.named name old hold
    · exact h.named name s hs

theorem modifyChannel (h : r.Bound) {change : Channel → Channel}
    (hkeep : ∀ slot, (change slot).sessionId = slot.sessionId ∧
      (change slot).retired = slot.retired) : (r.modifyChannel channel change).Bound where
  agree other name := by
    have same : (r.modifyChannel channel change).sessionOf? other = r.sessionOf? other := by
      rw [sessionOf?, sessionOf?, channel?_modifyChannel]
      split
      · cases r.channel? other with
        | none => rfl
        | some slot => exact (hkeep slot).1
      · rfl
    rw [same]
    exact h.agree other name
  retired other slot hslot := by
    rw [channel?_modifyChannel] at hslot
    split at hslot
    · obtain ⟨old, hold, rfl⟩ := Option.map_eq_some_iff.mp hslot
      rw [(hkeep old).1, (hkeep old).2]
      exact h.retired other old hold
    · exact h.retired other slot hslot
  opened other slot hslot := by
    rw [channel?_modifyChannel] at hslot
    split at hslot
    · obtain ⟨old, hold, -⟩ := Option.map_eq_some_iff.mp hslot
      exact h.opened other old hold
    · exact h.opened other slot hslot
  named := h.named

end Bound

/-! ## Opening and closing channels -/

theorem channel?_openChannel :
    r.openChannel.2.channel? other =
      if other = r.lastChannel + 1 then some {} else r.channel? other :=
  Table.find?_insert ..

theorem sessionOf?_openChannel (h : r.Bound) :
    r.openChannel.2.sessionOf? other = r.sessionOf? other := by
  rw [sessionOf?, sessionOf?, channel?_openChannel]
  split
  · next he => rw [he, h.channel?_next]; rfl
  · rfl

theorem Bound.openChannel (h : r.Bound) : r.openChannel.2.Bound where
  agree other name := by
    rw [sessionOf?_openChannel h]
    exact h.agree other name
  retired other slot hslot := by
    rw [channel?_openChannel] at hslot
    split at hslot
    · obtain rfl := Option.some.inj hslot
      exact nofun
    · exact h.retired other slot hslot
  opened other slot hslot := by
    rw [channel?_openChannel] at hslot
    change other ≤ r.lastChannel + 1
    split at hslot
    · omega
    · exact Nat.le_succ_of_le (h.opened other slot hslot)
  named := h.named

theorem channel?_closeChannel :
    (r.closeChannel channel).2.channel? other =
      if other = channel then none else r.channel? other := by
  unfold closeChannel
  split
  · next hnone =>
      split
      · next he => rw [he, hnone]
      · rfl
  · split <;> exact Table.find?_erase ..

theorem sessionOf?_closeChannel :
    (r.closeChannel channel).2.sessionOf? other =
      if other = channel then none else r.sessionOf? other := by
  rw [sessionOf?, channel?_closeChannel]
  split <;> rfl

theorem session?_closeChannel (h : r.Bound) :
    (r.closeChannel channel).2.session? name = (r.session? name).map (detach channel) := by
  have keep {s : RemoteSession} (hs : r.session? name = some s)
      (hfree : r.sessionOf? channel ≠ some name) : detach channel s = s := by
    rw [ne_eq, h.agree, channelOf?_of_session hs] at hfree
    rw [detach, if_neg hfree]
  unfold closeChannel
  split
  · next hnone =>
      cases hs : r.session? name with
      | none => rfl
      | some s => rw [Option.map_some, keep hs (by rw [sessionOf?, hnone]; exact nofun)]
  · next slot hslot =>
      have hof := sessionOf?_of_slot hslot
      split
      · next hfree =>
          cases hs : r.session? name with
          | none => exact hs
          | some s => rw [Option.map_some, keep hs (by rw [hof, hfree]; exact nofun)]; exact hs
      · next sessionId hbound =>
          rw [session?_modifySession]
          split
          · rfl
          · next hne =>
              cases hs : r.session? name with
              | none => exact hs
              | some s =>
                  rw [Option.map_some, keep hs (by rw [hof, hbound]; grind)]
                  exact hs

theorem channelOf?_closeChannel (h : r.Bound) :
    (r.closeChannel channel).2.channelOf? name =
      if r.channelOf? name = some channel then none else r.channelOf? name := by
  rw [channelOf?, session?_closeChannel h, channelOf?]
  cases r.session? name with
  | none => rfl
  | some s =>
      simp only [Option.map_some, Option.bind_some, detach]
      split <;> rfl

theorem lastChannel_closeChannel :
    (r.closeChannel channel).2.lastChannel = r.lastChannel := by
  unfold closeChannel
  split
  · rfl
  · split <;> rfl

theorem Bound.closeChannel (h : r.Bound) : (r.closeChannel channel).2.Bound where
  agree other name := by
    rw [sessionOf?_closeChannel, channelOf?_closeChannel h]
    have := h.agree other name
    grind
  retired other slot hslot := by
    rw [channel?_closeChannel] at hslot
    split at hslot
    · contradiction
    · exact h.retired other slot hslot
  opened other slot hslot := by
    rw [channel?_closeChannel] at hslot
    rw [lastChannel_closeChannel]
    split at hslot
    · contradiction
    · exact h.opened other slot hslot
  named name s hs := by
    rw [session?_closeChannel h] at hs
    obtain ⟨old, hold, -⟩ := Option.map_eq_some_iff.mp hs
    have same : (r.closeChannel channel).2.serial = r.serial ∧
        (r.closeChannel channel).2.stem = r.stem := by
      unfold Remote.closeChannel
      split
      · exact ⟨rfl, rfl⟩
      · split <;> exact ⟨rfl, rfl⟩
    rw [same.1, same.2]
    exact h.named name old hold

end Remote

end ResumableSession
