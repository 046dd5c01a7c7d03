import ResumableSession.Proofs.Session.CatchUp

/-!
What happened to a session, one turn after the other.

The turns of a run are the run in full: its effects are those of the turns, one after the other, and
every message that the session dealt with was heard in one of them.
-/

namespace ResumableSession.Session

def turns (moments : List Moment) (s : Session) : List Turn :=
  match moments with
  | [] => []
  | moment :: rest => ⟨s, moment⟩ :: (s.meet moment).1.turns rest

/-- What inputs make of a session, turn by turn.  The bytes that are still to be read are left
out. -/
def turnsOf (inputs : List Input) (s : Session) : List Turn :=
  s.bare.turns (s.history inputs)

variable {s : Session}

/-! ## Turns one after the other -/

theorem turns_cons (moment : Moment) (rest : List Moment) (s : Session) :
    s.turns (moment :: rest) = ⟨s, moment⟩ :: (Turn.mk s moment).after.turns rest :=
  rfl

theorem meetAll_turn (moment : Moment) (rest : List Moment) (s : Session) :
    s.meetAll (moment :: rest) =
      (((Turn.mk s moment).after.meetAll rest).1,
        (Turn.mk s moment).effects ++ ((Turn.mk s moment).after.meetAll rest).2) :=
  rfl

theorem turns_append (first second : List Moment) (s : Session) :
    s.turns (first ++ second) = s.turns first ++ (s.meetAll first).1.turns second := by
  induction first generalizing s with
  | nil => simp [turns, meetAll]
  | cons moment rest ih => simp [turns, meetAll, ih]

theorem reply_turn (moment : Moment) (s : Session) :
    Reply s moment (Turn.mk s moment).heard? (Turn.mk s moment).after (Turn.mk s moment).effects :=
  (Turn.mk s moment).reply

theorem effects_turns (moments : List Moment) (s : Session) :
    (s.turns moments).flatMap Turn.effects = (s.meetAll moments).2 := by
  induction moments generalizing s with
  | nil => rfl
  | cons moment rest ih => simp [turns_cons, meetAll_turn, ih]

theorem exists_of_turns_append {moments : List Moment} {earlier later : List Turn}
    (h : s.turns moments = earlier ++ later) :
    ∃ first second, moments = first ++ second ∧ earlier = s.turns first ∧
      later = (s.meetAll first).1.turns second := by
  induction moments generalizing s earlier with
  | nil =>
      obtain ⟨rfl, rfl⟩ := List.nil_eq_append_iff.mp h
      exact ⟨[], [], rfl, rfl, rfl⟩
  | cons moment rest ih =>
      rw [turns] at h
      rcases List.cons_eq_append_iff.mp h with ⟨rfl, rfl⟩ | ⟨others, rfl, hrest⟩
      · exact ⟨[], moment :: rest, rfl, rfl, rfl⟩
      · obtain ⟨first, second, rfl, rfl, rfl⟩ := ih hrest
        exact ⟨moment :: first, second, rfl, rfl, rfl⟩

theorem exists_of_turns_eq {moments : List Moment} {earlier later : List Turn} {t : Turn}
    (h : s.turns moments = earlier ++ t :: later) :
    ∃ first rest, earlier = s.turns first ∧ t.before = (s.meetAll first).1 ∧
      moments = first ++ t.moment :: rest ∧ later = t.after.turns rest := by
  obtain ⟨first, second, rfl, rfl, hlater⟩ := exists_of_turns_append h
  cases second with
  | nil => simp [turns] at hlater
  | cons moment rest =>
      obtain ⟨rfl, rfl⟩ := List.cons.inj hlater
      exact ⟨first, rest, rfl, rfl, rfl, rfl⟩

theorem turnsOf_cons (h : Tidy s) (input : Input) (rest : List Input) :
    s.turnsOf (input :: rest) = s.bare.turns (s.moments input) ++ (s.step input).1.turnsOf rest := by
  rw [turnsOf, history, turns_append, ← step_moments h.sound input, turnsOf]

theorem effects_turnsOf (config : Config) (inputs : List Input) :
    ((new config).turnsOf inputs).flatMap Turn.effects = ((new config).steps inputs).2 := by
  rw [turnsOf, effects_turns]
  exact (congrArg Prod.snd (steps_new config inputs)).symm

end ResumableSession.Session
