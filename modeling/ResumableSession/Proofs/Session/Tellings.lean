import ResumableSession.Proofs.Session.Deliveries
import ResumableSession.Proofs.Session.Graph

/-!
What a session tells, turn by turn.

A turn tells of the response that was accepted in it, if there was one, and of the change of the
status, if it changed.  It tells of nothing else, and of nothing twice.
-/

namespace ResumableSession

namespace Session

def Turn.accepted? (t : Turn) : Option Response :=
  t.response?.filter fun response => response.id = t.before.responseCursor

def Turn.change? (t : Turn) : Option Status :=
  if t.after.status = t.before.status then none else some t.after.status

/-! ## Single turns -/

theorem Turn.deliveries_effects (t : Turn) :
    deliveries t.effects = t.accepted?.toList.map Response.payload := by
  unfold accepted?
  cases t.admitted with
  | accepted response heard isNext effects =>
      rw [heard, Option.filter_some_pos (by simpa using isNext), effects]
      rfl
  | passedOver response heard isOther effects same => simp [heard, isOther, effects, deliveries]
  | other unheard nothing => simp [unheard, nothing]

theorem told_change {delay : Nat} {moment : Moment} {status after : Status}
    {effects : List Effect} (h : Change delay moment status after effects) :
    told effects = if after = status then [] else [after] := by
  cases h with
  | idles => rw [if_pos rfl]; rfl
  | talks live talk plain => rw [if_pos rfl, told_of_talk plain]
  | opens unheard => rfl
  | connects opened talk plain =>
      rw [told_append, told_of_talk plain]
      rfl
  | attaches fresh talk plain heard =>
      rw [told_append, told_of_talk plain]
      rcases fresh with rfl | rfl <;> rfl
  | ends live ending heard =>
      have hother : ending.status ≠ status := by
        rintro rfl
        cases ending <;> contradiction
      rw [told_ending, if_neg hother]

theorem Turn.told_effects (t : Turn) : told t.effects = t.change?.toList := by
  rw [change?, told_change t.reply.change]
  split <;> rfl

/-! ## Runs -/

theorem deliveries_flatMap (turns : List Turn) :
    deliveries (turns.flatMap Turn.effects) =
      (turns.filterMap Turn.accepted?).map Response.payload := by
  induction turns with
  | nil => rfl
  | cons t rest ih =>
      rw [List.flatMap_cons, deliveries_append, t.deliveries_effects, ih, List.filterMap_cons]
      cases t.accepted? <;> rfl

theorem told_flatMap (turns : List Turn) :
    told (turns.flatMap Turn.effects) = turns.filterMap Turn.change? := by
  induction turns with
  | nil => rfl
  | cons t rest ih =>
      rw [List.flatMap_cons, told_append, t.told_effects, ih, List.filterMap_cons]
      cases t.change? <;> rfl

theorem consecutive_accepted (moments : List Moment) (s : Session) :
    Consecutive s.responseCursor (s.meetAll moments).1.responseCursor
      ((s.turns moments).filterMap Turn.accepted?) := by
  induction moments generalizing s with
  | nil => rfl
  | cons moment rest ih =>
      have hrest := ih (Turn.mk s moment).after
      rw [(reply_turn moment s).cursor, Turn.deliveries_effects] at hrest
      rw [meetAll_turn, turns_cons, List.filterMap_cons]
      cases haccepted : (Turn.mk s moment).accepted? with
      | none => simpa [haccepted] using hrest
      | some response =>
          have hnext : response.id = s.responseCursor := by
            simpa using (Option.filter_eq_some_iff.mp haccepted).2
          rw [haccepted] at hrest
          exact ⟨hnext, hrest⟩

variable (config : Config) (inputs : List Input)

theorem deliveries_steps :
    deliveries ((new config).steps inputs).2 =
      (((new config).turnsOf inputs).filterMap Turn.accepted?).map Response.payload := by
  rw [← effects_turnsOf, deliveries_flatMap]

theorem told_steps :
    told ((new config).steps inputs).2 = ((new config).turnsOf inputs).filterMap Turn.change? := by
  rw [← effects_turnsOf, told_flatMap]

theorem accepted_steps :
    Consecutive 0 ((new config).steps inputs).1.responseCursor
      (((new config).turnsOf inputs).filterMap Turn.accepted?) := by
  have haccepted := consecutive_accepted ((new config).history inputs) (new config).bare
  have hcursor := congrArg (fun result => result.1.responseCursor) (steps_new config inputs)
  simp only [bare] at hcursor haccepted
  rw [turnsOf, hcursor]
  exact haccepted

end Session

end ResumableSession
