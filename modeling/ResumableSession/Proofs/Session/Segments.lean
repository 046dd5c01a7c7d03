import ResumableSession.Proofs.Session.CatchUp
import ResumableSession.Proofs.Session.Changes

/-!
The effects of a run, connection by connection.

Everything that a session does belongs to a connection: it is opened, something happens on it, and
then it comes to an end, unless it is the present one.  A `Segment` is what is done on account of
one connection, and the effects of a run are its segments, one after the other.

The segments are found moment by moment.  `Course` says which segments may have been left behind
when a session has a certain status, and every `Change` keeps to it.
-/

namespace ResumableSession

/-- Whether an effect may come between the opening of a connection and its end. -/
def Effect.interim : Effect → Bool
  | .stateChanged .connected | .stateChanged .attached => true
  | effect => effect.talk

theorem Effect.interim_of_talk {effect : Effect} (h : effect.talk) : effect.interim := by
  unfold interim
  split
  · rfl
  · rfl
  · exact h

theorem Effect.interim_told {talk : List Effect} {status : Status}
    (plain : ∀ effect ∈ talk, effect.talk) (hstatus : (Effect.stateChanged status).interim) :
    ∀ effect ∈ talk ++ [.stateChanged status], effect.interim := by
  intro effect hmem
  rcases List.mem_append.mp hmem with hmem | hmem
  · exact interim_of_talk (plain effect hmem)
  · exact List.mem_singleton.mp hmem ▸ hstatus

/-! ## One connection -/

/-- A connection that has no ending is the present one. -/
structure Segment where
  interim : List Effect
  plain : ∀ effect ∈ interim, effect.interim
  ending : Option Ending

namespace Segment

variable {delay : Nat} {segment : Segment}

def effects (delay : Nat) (segment : Segment) : List Effect :=
  [.stateChanged .awaitingConnect, .openTransport] ++ segment.interim ++
    (segment.ending.map (Ending.effects delay)).getD []

/-- The connection was given up, and another one was to follow it. -/
def Retried (segment : Segment) : Prop :=
  ∃ ending, segment.ending = some ending ∧ ending ≠ .rejected

def opening : Segment :=
  ⟨[], nofun, none⟩

def extend (segment : Segment) (more : List Effect) (plain : ∀ effect ∈ more, effect.interim) :
    Segment where
  interim := segment.interim ++ more
  plain effect hmem := (List.mem_append.mp hmem).elim (segment.plain effect) (plain effect)
  ending := segment.ending

def finish (segment : Segment) (ending : Ending) : Segment :=
  { segment with ending := some ending }

theorem effects_extend (hopen : segment.ending = none) {more : List Effect}
    (plain : ∀ effect ∈ more, effect.interim) :
    (segment.extend more plain).effects delay = segment.effects delay ++ more := by
  simp [effects, extend, hopen]

theorem effects_finish (hopen : segment.ending = none) (ending : Ending) :
    (segment.finish ending).effects delay = segment.effects delay ++ ending.effects delay := by
  simp [effects, finish, hopen]

theorem count_open_effects (delay : Nat) (segment : Segment) :
    (segment.effects delay).count .openTransport = 1 := by
  have hinterim : Effect.openTransport ∉ segment.interim := fun hmem =>
    Bool.false_ne_true (segment.plain _ hmem)
  have hending : Effect.openTransport ∉
      (segment.ending.map (Ending.effects delay)).getD [] := by
    cases segment.ending with
    | none => exact List.not_mem_nil
    | some ending => cases ending <;> simp [Ending.effects]
  rw [effects, List.count_append, List.count_append, List.count_eq_zero_of_not_mem hinterim,
    List.count_eq_zero_of_not_mem hending]
  rfl

theorem count_open_flatMap (delay : Nat) (segments : List Segment) :
    (segments.flatMap (effects delay)).count .openTransport = segments.length := by
  induction segments with
  | nil => rfl
  | cons segment rest ih =>
      rw [List.flatMap_cons, List.count_append, count_open_effects, ih, List.length_cons,
        Nat.add_comm]

end Segment

/-! ## One connection after the other -/

/-- The segments that a session of a certain status may have behind it. -/
inductive Course : Status → List Segment → Prop where
  | down {segments : List Segment} (retried : ∀ segment ∈ segments, segment.Retried) :
      Course .disconnected segments
  | present {status : Status} {earlier : List Segment} {current : Segment} (live : status.live)
      (retried : ∀ segment ∈ earlier, segment.Retried) (unfinished : current.ending = none) :
      Course status (earlier ++ [current])
  | rejected {earlier : List Segment} {last : Segment}
      (retried : ∀ segment ∈ earlier, segment.Retried)
      (turnedAway : last.ending = some .rejected) : Course .rejected (earlier ++ [last])

namespace Course

variable {delay : Nat} {moment : Moment} {status after : Status} {segments : List Segment}
  {effects : List Effect}

theorem exists_current (h : Course status segments) (hlive : status.live) :
    ∃ earlier current, segments = earlier ++ [current] ∧
      (∀ segment ∈ earlier, segment.Retried) ∧ current.ending = none := by
  cases h with
  | down retried => contradiction
  | present live retried unfinished => exact ⟨_, _, rfl, retried, unfinished⟩
  | rejected retried turnedAway => contradiction

theorem opens (h : Course .disconnected segments) :
    Course .awaitingConnect (segments ++ [.opening]) := by
  cases h with
  | down retried => exact .present rfl retried rfl
  | present live retried unfinished => contradiction

theorem goes_on (h : Course status segments) (hlive : status.live) (hafter : after.live)
    (plain : ∀ effect ∈ effects, effect.interim) :
    ∃ more, Course after more ∧
      more.flatMap (·.effects delay) = segments.flatMap (·.effects delay) ++ effects := by
  obtain ⟨earlier, current, rfl, retried, unfinished⟩ := h.exists_current hlive
  refine ⟨earlier ++ [current.extend effects plain], .present hafter retried unfinished, ?_⟩
  rw [List.flatMap_append, List.flatMap_append, List.flatMap_singleton, List.flatMap_singleton,
    Segment.effects_extend unfinished, List.append_assoc]

theorem ends (h : Course status segments) (hlive : status.live) (ending : Ending) :
    ∃ more, Course ending.status more ∧
      more.flatMap (·.effects delay) =
        segments.flatMap (·.effects delay) ++ ending.effects delay := by
  obtain ⟨earlier, current, rfl, retried, unfinished⟩ := h.exists_current hlive
  refine ⟨earlier ++ [current.finish ending], ?_, ?_⟩
  · have hgivenUp (hother : ending ≠ .rejected) :
        ∀ segment ∈ earlier ++ [current.finish ending], segment.Retried := by
      intro segment hmem
      rcases List.mem_append.mp hmem with hmem | hmem
      · exact retried segment hmem
      · obtain rfl := List.mem_singleton.mp hmem
        exact ⟨ending, rfl, hother⟩
    cases ending with
    | lost cause => exact .down (hgivenUp nofun)
    | undecodable error => exact .down (hgivenUp nofun)
    | rejected => exact .rejected retried rfl
  · rw [List.flatMap_append, List.flatMap_append, List.flatMap_singleton,
      List.flatMap_singleton, Segment.effects_finish unfinished, List.append_assoc]

theorem changes (h : Course status segments) (hchange : Change delay moment status after effects) :
    ∃ more, Course after more ∧
      more.flatMap (·.effects delay) = segments.flatMap (·.effects delay) ++ effects := by
  cases hchange with
  | idles => exact ⟨segments, h, (List.append_nil _).symm⟩
  | talks live talk plain =>
      exact h.goes_on live live fun effect hmem => Effect.interim_of_talk (plain effect hmem)
  | opens unheard => exact ⟨_, h.opens, by rw [List.flatMap_append]; rfl⟩
  | connects opened talk plain => exact h.goes_on rfl rfl (Effect.interim_told plain rfl)
  | attaches fresh talk plain heard =>
      have live : status.live := by rcases fresh with rfl | rfl <;> rfl
      exact h.goes_on live rfl (Effect.interim_told plain rfl)
  | ends live ending heard => exact h.ends live ending

/-! ### The last segment -/

theorem retried_of_mem_dropLast (h : Course status segments) :
    ∀ segment ∈ segments.dropLast, segment.Retried := by
  cases h with
  | down retried => exact fun segment hmem => retried segment (List.dropLast_subset _ hmem)
  | present live retried unfinished => rwa [List.dropLast_concat]
  | rejected retried turnedAway => rwa [List.dropLast_concat]

theorem live_iff (h : Course status segments) :
    status.live ↔ ∃ last, segments.getLast? = some last ∧ last.ending = none := by
  cases h with
  | down retried =>
      refine iff_of_false Bool.false_ne_true ?_
      rintro ⟨last, hlast, hnone⟩
      obtain ⟨ending, hsome, -⟩ := retried last (List.mem_of_getLast? hlast)
      simp [hnone] at hsome
  | present live retried unfinished => simp [live, unfinished]
  | rejected retried turnedAway => simp [Status.live, turnedAway]

theorem rejected_of_last (h : Course status segments) {last : Segment}
    (hlast : segments.getLast? = some last) (hending : last.ending = some .rejected) :
    status = .rejected := by
  cases h with
  | down retried =>
      obtain ⟨ending, hsome, hother⟩ := retried last (List.mem_of_getLast? hlast)
      exact absurd (Option.some.inj (hsome.symm.trans hending)) hother
  | present live retried unfinished =>
      obtain rfl : _ = last := by simpa using hlast
      simp [unfinished] at hending
  | rejected retried turnedAway => rfl

end Course

namespace Session

variable {s : Session}

theorem exists_course {segments : List Segment} (h : Course s.status segments)
    (moments : List Moment) :
    ∃ more, Course (s.meetAll moments).1.status more ∧
      more.flatMap (·.effects s.config.reconnectDelay) =
        segments.flatMap (·.effects s.config.reconnectDelay) ++ (s.meetAll moments).2 := by
  induction moments generalizing s segments with
  | nil => exact ⟨segments, h, (List.append_nil _).symm⟩
  | cons moment rest ih =>
      have hconfig := (meet_met moment s).config
      obtain ⟨middle, hmiddle, hmeet⟩ := h.changes (meet_change moment s)
      obtain ⟨more, hmore, hrest⟩ := ih hmiddle
      refine ⟨more, hmore, ?_⟩
      rw [hconfig, hmeet, List.append_assoc] at hrest
      exact hrest

theorem meetAll_of_rejected (h : s.status = .rejected) (moments : List Moment) :
    (s.meetAll moments).2 = [] := by
  induction moments generalizing s with
  | nil => rfl
  | cons moment rest ih =>
      obtain ⟨hafter, heffects⟩ :
          (s.meet moment).1.status = .rejected ∧ (s.meet moment).2 = [] := by
        have hchange := meet_change moment s
        rw [h] at hchange
        generalize (s.meet moment).1.status = after, (s.meet moment).2 = effects at hchange
        cases hchange with
        | idles => exact ⟨rfl, rfl⟩
        | talks live talk plain => contradiction
        | attaches fresh talk plain heard => simp at fresh
        | ends live ending heard => contradiction
      rw [meetAll_cons, heffects, ih hafter]
      rfl

/-- The effects of a run are its connections, one after the other.  All but the last were given up
and asked for again.  The last one is the present connection if there is one, and if the session
was rejected on it, nothing is ever done again. -/
theorem effects_segmented (config : Config) (inputs : List Input) :
    let result := (new config).steps inputs
    ∃ segments : List Segment,
      result.2 = segments.flatMap (·.effects config.reconnectDelay) ∧
      result.1.attempts = segments.length ∧
      (∀ segment ∈ segments.dropLast, segment.Retried) ∧
      (result.1.status.live ↔ ∃ last, segments.getLast? = some last ∧ last.ending = none) ∧
      (∀ last, segments.getLast? = some last → last.ending = some .rejected →
        ∀ later, (result.1.steps later).2 = []) := by
  intro result
  obtain ⟨hfinal, heffects⟩ := Prod.mk.inj (steps_new config inputs)
  have hstart : Course (new config).status [] := .down nofun
  obtain ⟨segments, hcourse, hrun⟩ := exists_course hstart ((new config).history inputs)
  have hcourse : Course result.1.status segments := by
    rw [← hfinal] at hcourse
    exact hcourse
  have hresult : result.2 = segments.flatMap (·.effects config.reconnectDelay) :=
    heffects.trans hrun.symm
  refine ⟨segments, hresult, ?_, hcourse.retried_of_mem_dropLast, hcourse.live_iff, ?_⟩
  · rw [← Segment.count_open_flatMap config.reconnectDelay segments]
    refine Eq.trans ?_ (congrArg (List.count Effect.openTransport) hresult)
    have hcount := count_open_meetAll ((new config).history inputs) (new config)
    rw [← hfinal, ← heffects] at hcount
    exact hcount.symm.trans (Nat.zero_add _)
  · intro last hlast hending later
    have hrejected : result.1.bare.status = .rejected := hcourse.rejected_of_last hlast hending
    have hlater := steps_history ((Tidy.new config).steps inputs) later
    exact (congrArg Prod.snd hlater).trans (meetAll_of_rejected hrejected _)

end Session

end ResumableSession
