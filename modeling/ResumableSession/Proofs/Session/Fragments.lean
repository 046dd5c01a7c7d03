import ResumableSession.Proofs.Session.Moments

/-!
The way in which the bytes of a connection are cut into fragments.

It makes no difference to a session.  Two sessions are `Alike` if they differ in nothing but the
way in which their unread bytes are stored; once there is no connection, the unread bytes do not
count either.  Bytes that come in two goes lead to the same effects as bytes that come in one,
and to sessions that are alike, and from then on nothing tells the one from the other.
-/

namespace ResumableSession.Session

variable {s t u : Session}

/-- The same session, except that bytes which nobody will read may differ. -/
structure Alike (s t : Session) : Prop where
  bare : s.bare = t.bare
  unread : t.status.live → s.buffer.residual = t.buffer.residual

theorem Alike.refl (s : Session) : Alike s s :=
  ⟨rfl, fun _ => rfl⟩

theorem Alike.status (h : Alike s t) : s.status = t.status := by
  have hstatus : s.bare.status = t.bare.status := by rw [h.bare]
  exact hstatus

theorem Alike.symm (h : Alike s t) : Alike t s where
  bare := h.bare.symm
  unread hlive := (h.unread (h.status ▸ hlive)).symm

theorem Alike.trans (hst : Alike s t) (htu : Alike t u) : Alike s u where
  bare := hst.bare.trans htu.bare
  unread hlive := (hst.unread (htu.status ▸ hlive)).trans (htu.unread hlive)

/-! ## Two fragments -/

theorem received_append (hsound : s.buffer.Sound) (first second : List UInt8) :
    (s.received first).2 ++ ((s.received first).1.received second).2 =
        (s.received (first ++ second)).2 ∧
      Alike ((s.received first).1.received second).1 (s.received (first ++ second)).1 := by
  by_cases hlive : s.status.live
  · have hfirst := received_reads hlive hsound first
    have hwhole := received_reads hlive hsound (first ++ second)
    rw [← List.append_assoc, Frame.Queue.drain_append] at hwhole
    have houtcome := hwhole.outcome
    rw [List.map_append, meetAll_append, ← hfirst.outcome] at houtcome
    by_cases hstill : (s.received first).1.status.live
    · have hsecond := received_reads hstill hfirst.sound second
      rw [hfirst.unread hstill] at hsecond
      rw [← hsecond.outcome] at houtcome
      obtain ⟨hbare, heffects⟩ := Prod.mk.inj houtcome
      refine ⟨heffects.symm, hbare.symm, fun hend => ?_⟩
      have hlast : ((s.received first).1.received second).1.status.live :=
        congrArg (fun s : Session => s.status.live) hbare ▸ hend
      rw [hsecond.unread hlast, hwhole.unread hend]
    · have hbareDown : ¬ (s.received first).1.bare.status.live := hstill
      rw [meetAll_lines_of_not_live hbareDown, List.append_nil] at houtcome
      obtain ⟨hbare, heffects⟩ := Prod.mk.inj houtcome
      rw [received_of_not_live hstill, List.append_nil]
      refine ⟨heffects.symm, hbare.symm, fun hend => ?_⟩
      have hdown : (s.received first).1.status.live :=
        congrArg (fun s : Session => s.status.live) hbare ▸ hend
      exact absurd hdown hstill
  · rw [received_of_not_live hlive, received_of_not_live hlive, received_of_not_live hlive]
    exact ⟨rfl, .refl s⟩

/-! ## Any number of fragments -/

theorem received_nil (h : Tidy s) : (s.received []).2 = [] ∧ Alike s (s.received []).1 := by
  by_cases hlive : s.status.live
  · have hreads := received_reads hlive h.sound []
    rw [List.append_nil,
      Frame.Queue.drain_none (Frame.Queue.next_of_not_mem (h.open_ended hlive))] at hreads
    obtain ⟨hbare, heffects⟩ := Prod.mk.inj hreads.outcome
    exact ⟨heffects, hbare.symm, fun hstill => (hreads.unread hstill).symm⟩
  · rw [received_of_not_live hlive]
    exact ⟨rfl, .refl s⟩

theorem received_flatten (h : Tidy s) (fragments : List (List UInt8)) :
    (s.steps (fragments.map .received)).2 = (s.received fragments.flatten).2 ∧
      Alike (s.steps (fragments.map .received)).1 (s.received fragments.flatten).1 := by
  induction fragments generalizing s with
  | nil =>
      obtain ⟨heffects, halike⟩ := received_nil h
      exact ⟨heffects.symm, halike⟩
  | cons fragment rest ih =>
      have hnext : Tidy (s.received fragment).1 := h.step (.received fragment)
      obtain ⟨heffects, halike⟩ := ih hnext
      obtain ⟨hsplit, hjoined⟩ := received_append h.sound fragment rest.flatten
      have hsteps : s.steps ((fragment :: rest).map .received) =
          (((s.received fragment).1.steps (rest.map .received)).1,
            (s.received fragment).2 ++ ((s.received fragment).1.steps (rest.map .received)).2) :=
        rfl
      rw [hsteps, heffects, List.flatten_cons]
      exact ⟨hsplit, halike.trans hjoined⟩

/-! ## Later inputs -/

theorem Alike.moments (h : Alike s t) (input : Input) : s.moments input = t.moments input := by
  cases input with
  | received fragment =>
      by_cases hlive : t.status.live
      · rw [Session.moments, Session.moments, h.status, h.unread hlive]
      · rw [Session.moments, Session.moments, h.status, if_neg hlive, if_neg hlive]
  | start | connect | opened | lost cause | request payload => rfl

theorem Alike.unreadAfter (h : Alike s t) (input : Input) :
    s.unreadAfter input = t.unreadAfter input := by
  by_cases hlive : t.status.live
  · unfold Session.unreadAfter
    rw [h.status, h.unread hlive]
  · unfold Session.unreadAfter
    rw [h.status, if_neg hlive, if_neg hlive]

theorem Alike.step (h : Alike s t) (hs : s.buffer.Sound) (ht : t.buffer.Sound) (input : Input) :
    (s.step input).2 = (t.step input).2 ∧ Alike (s.step input).1 (t.step input).1 := by
  have hsteps := step_moments hs input
  rw [h.bare, h.moments input, ← step_moments ht input] at hsteps
  obtain ⟨hbare, heffects⟩ := Prod.mk.inj hsteps
  have hstatus : (s.step input).1.bare.status = (t.step input).1.bare.status := by rw [hbare]
  refine ⟨heffects, hbare, fun hlive => ?_⟩
  have hlive' : (s.step input).1.status.live := by
    rw [show (s.step input).1.status = (t.step input).1.status from hstatus]
    exact hlive
  rw [(step_leaves hs input).unread hlive', (step_leaves ht input).unread hlive,
    h.unreadAfter input]

theorem Alike.steps (h : Alike s t) (hs : Tidy s) (ht : Tidy t) (inputs : List Input) :
    (s.steps inputs).2 = (t.steps inputs).2 ∧ Alike (s.steps inputs).1 (t.steps inputs).1 := by
  induction inputs generalizing s t with
  | nil => exact ⟨rfl, h⟩
  | cons input rest ih =>
      obtain ⟨heffects, halike⟩ := h.step hs.sound ht.sound input
      obtain ⟨hmore, hlast⟩ := ih halike (hs.step input) (ht.step input)
      refine ⟨?_, hlast⟩
      simp only [Session.steps, heffects, hmore]

/-! ## Sessions that can be reached -/

/-- It makes no difference where the bytes of a connection are cut, neither to what is done nor
to the session that comes of it, and nothing that happens later shows where they were cut. -/
theorem fragmentation_irrelevant (config : Config) (inputs : List Input) :
    let s := ((new config).steps inputs).1
    (∀ first second : List UInt8,
      (s.received first).2 ++ ((s.received first).1.received second).2 =
          (s.received (first ++ second)).2 ∧
        Alike ((s.received first).1.received second).1 (s.received (first ++ second)).1) ∧
    ∀ fragments others : List (List UInt8), fragments.flatten = others.flatten →
      (s.steps (fragments.map .received)).2 = (s.steps (others.map .received)).2 ∧
        Alike (s.steps (fragments.map .received)).1 (s.steps (others.map .received)).1 ∧
        ∀ later, ((s.steps (fragments.map .received)).1.steps later).2 =
          ((s.steps (others.map .received)).1.steps later).2 := by
  intro s
  have htidy : Tidy s := (Tidy.new config).steps inputs
  refine ⟨received_append htidy.sound, fun fragments others hflatten => ?_⟩
  obtain ⟨heffects, halike⟩ := received_flatten htidy fragments
  obtain ⟨hothers, hother⟩ := received_flatten htidy others
  rw [hflatten, ← hothers] at heffects
  rw [hflatten] at halike
  have hboth := halike.trans hother.symm
  refine ⟨heffects, hboth, fun later => ?_⟩
  exact (hboth.steps (htidy.steps _) (htidy.steps _) later).1

/-- The session is attached, a message is not understood, and the next one comes too late. -/
def interruption : List UInt8 :=
  Text.Utf8.encode (Frame.wrap (ServerMessage.encode (.success "s:1" 1000 ⟨"é", "g"⟩))) ++
    Text.Utf8.encode (Frame.wrap "?") ++
    Text.Utf8.encode (Frame.wrap (ServerMessage.encode .failure))

theorem interruption_fragmentation_irrelevant :
    let s := ((new {}).steps [.start, .opened]).1
    let fragments := interruption.map fun byte => [byte]
    let others := [interruption.take 30, [], interruption.drop 30]
    fragments.flatten = others.flatten ∧
      (s.steps (fragments.map .received)).2 = (s.steps (others.map .received)).2 ∧
      Alike (s.steps (fragments.map .received)).1 (s.steps (others.map .received)).1 ∧
      (s.steps (others.map .received)).1.status = .disconnected := by
  intro s fragments others
  have hflatten : fragments.flatten = others.flatten := by decide +kernel
  have hstatus : (s.steps (others.map .received)).1.status = .disconnected := by decide +kernel
  obtain ⟨-, hcuts⟩ := fragmentation_irrelevant {} [.start, .opened]
  obtain ⟨heffects, halike, -⟩ := hcuts fragments others hflatten
  exact ⟨hflatten, heffects, halike, hstatus⟩

end ResumableSession.Session
