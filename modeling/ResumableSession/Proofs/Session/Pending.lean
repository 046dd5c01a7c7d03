import Mathlib.Data.List.Basic
import ResumableSession.Proofs.Session.Turns

/-!
The requests that are pending.

Requests are numbered in the order in which they are made.  A request is let go of as soon as the
other side tells, by welcoming the session or with a response that is accepted, that it is beyond
its number.  What was told before the request was made does not count.  So the outbox can be read
off the turns: it holds the requests that were made and not exceeded since.
-/

namespace ResumableSession

theorem Consecutive.eq_of_seq_eq {α : Type} [Sequenced α] {first stop : Nat} {item other : α}
    {items : List α} (h : Consecutive first stop items) (hitem : item ∈ items)
    (hother : other ∈ items) (hseq : seq item = seq other) : item = other := by
  induction items generalizing first with
  | nil => contradiction
  | cons head rest ih =>
      obtain ⟨hhead, hrest⟩ := h
      rcases List.mem_cons.mp hitem with hfirst | hitem <;>
        rcases List.mem_cons.mp hother with hsecond | hother
      · rw [hfirst, hsecond]
      · have := hrest.le_of_mem hother
        subst hfirst
        omega
      · have := hrest.le_of_mem hitem
        subst hsecond
        omega
      · exact ih hrest hitem hother

/-- The number below which the other side has dealt with all requests, if a session that waits for
this response is told so. -/
def ServerMessage.acknowledged? (responseCursor : Nat) : ServerMessage → Option Nat
  | .success _ requestCursor _ => some requestCursor
  | .response r => if r.id = responseCursor then some r.requestCursor else none
  | .failure => none

def Input.isRequest : Input → Bool
  | .request _ => true
  | .start | .connect | .opened | .lost _ | .received _ => false

namespace Session

variable {s after : Session} {moment : Moment} {heard : Option ServerMessage}
  {effects : List Effect}

/-! ## What was made and what was told -/

def Turn.acknowledged? (t : Turn) : Option Nat :=
  t.heard?.bind (ServerMessage.acknowledged? t.before.responseCursor)

/-- Whether it was told that the other side is beyond the request of this number. -/
def exceeded (id : Nat) (turns : List Turn) : Bool :=
  turns.any fun t => t.acknowledged?.any (id < ·)

/-- The requests that were made and not exceeded since. -/
def unacknowledged (turns : List Turn) : List Request :=
  match turns with
  | [] => []
  | t :: later =>
      (t.asked?.toList.filter fun request => !exceeded request.id later) ++ unacknowledged later

theorem asked?_eq_none (h : ∀ payload, moment ≠ .request payload) :
    Turn.asked? ⟨s, moment⟩ = none := by
  cases moment with
  | request payload => exact absurd rfl (h payload)
  | connect | opened | lost cause | line line => rfl

theorem Reply.entries (h : Reply s moment heard after effects) (hnumbered : s.Numbered) :
    after.outbox.entries =
      (s.outbox.entries.filter fun request =>
        !(heard.bind (ServerMessage.acknowledged? s.responseCursor)).any (request.id < ·)) ++
      (Turn.asked? ⟨s, moment⟩).toList := by
  have hkept (threshold : Nat) : (s.outbox.dropBelow threshold).entries =
      s.outbox.entries.filter fun request => !decide (request.id < threshold) := by
    rw [Consecutive.dropBelow_eq_filter hnumbered]
    apply List.filter_congr
    intro request _
    simp [seq, ← decide_not]
  cases h with
  | ignored unasked => simp [asked?_eq_none unasked, List.filter_true]
  | ends live unasked ending retried => simp [asked?_eq_none unasked, List.filter_true]
  | connects down | opens waiting => simp [Turn.asked?, List.filter_true]
  | asks payload => simp [Turn.asked?, Outbox.push, List.filter_true]
  | succeeds line live sessionId requestCursor profile =>
      simp [Turn.asked?, ServerMessage.acknowledged?, hkept]
  | fails line live => simp [Turn.asked?, ServerMessage.acknowledged?, List.filter_true]
  | accepts line live response isNext =>
      simp [Turn.asked?, ServerMessage.acknowledged?, hkept, isNext]
  | passesOver line live response isOther =>
      simp [Turn.asked?, ServerMessage.acknowledged?, isOther, List.filter_true]

theorem Reply.nextRequestId (h : Reply s moment heard after effects) :
    after.nextRequestId = s.nextRequestId + (Turn.asked? ⟨s, moment⟩).toList.length := by
  cases h with
  | ignored unasked => simp [asked?_eq_none unasked]
  | ends live unasked ending retried => simp [asked?_eq_none unasked]
  | asks payload | connects down | opens waiting
  | succeeds line live sessionId requestCursor profile | fails line live
  | accepts line live response isNext | passesOver line live response isOther => rfl

theorem Reply.sent (h : Reply s moment heard after effects) {request : Request}
    (hsent : .send (.request request) ∈ effects) :
    request ∈ s.outbox.entries ∨ Turn.asked? ⟨s, moment⟩ = some request := by
  cases h with
  | asks payload =>
      split at hsent
      · simp_all [Turn.asked?]
      · contradiction
  | succeeds line live sessionId requestCursor profile =>
      have hkept : request ∈ (s.outbox.dropBelow requestCursor).entries := by
        split at hsent <;> simpa using hsent
      exact .inl (Outbox.mem_of_mem_dropBelow hkept)
  | ends live unasked ending retried => cases ending <;> simp [Ending.effects] at hsent
  | opens waiting =>
      exfalso
      unfold greeting opener at hsent
      cases hid : s.sessionId <;> simp [hid] at hsent
  | ignored unasked | connects down | fails line live | accepts line live response isNext
  | passesOver line live response isOther => simp [Ending.effects] at hsent

/-! ## Runs -/

theorem entries_meetAll (hnumbered : s.Numbered) (moments : List Moment) :
    (s.meetAll moments).1.outbox.entries =
      (s.outbox.entries.filter fun request => !exceeded request.id (s.turns moments)) ++
        unacknowledged (s.turns moments) := by
  induction moments generalizing s with
  | nil => simp [meetAll, turns, exceeded, unacknowledged, List.filter_true]
  | cons moment rest ih =>
      have hnext : (Turn.mk s moment).after.Numbered := (meet_met moment s).numbered hnumbered
      rw [meetAll_turn, ih hnext,
        (reply_turn moment s).entries hnumbered, turns_cons, unacknowledged, List.filter_append,
        List.filter_filter, List.append_assoc]
      congr 1
      apply List.filter_congr
      intro request _
      simp [exceeded, Turn.acknowledged?, Bool.and_comm]

theorem consecutive_asked (moments : List Moment) (s : Session) :
    Consecutive s.nextRequestId (s.meetAll moments).1.nextRequestId
      ((s.turns moments).filterMap Turn.asked?) := by
  induction moments generalizing s with
  | nil => rfl
  | cons moment rest ih =>
      have hlater := ih (Turn.mk s moment).after
      rw [(reply_turn moment s).nextRequestId] at hlater
      rw [turns_cons, List.filterMap_cons, meetAll_turn]
      cases moment with
      | request payload => exact ⟨rfl, hlater⟩
      | connect | opened | lost cause | line line => exact hlater

theorem asked_of_sent (hnumbered : s.Numbered) {moments : List Moment} {request : Request}
    (hsent : .send (.request request) ∈ (s.meetAll moments).2) :
    request ∈ s.outbox.entries ∨ request ∈ (s.turns moments).filterMap Turn.asked? := by
  induction moments generalizing s with
  | nil => contradiction
  | cons moment rest ih =>
      have hreply := reply_turn moment s
      have hfirst (hmade : Turn.asked? ⟨s, moment⟩ = some request) :
          request ∈ (s.turns (moment :: rest)).filterMap Turn.asked? :=
        List.mem_filterMap.mpr ⟨_, List.mem_cons_self, hmade⟩
      rw [meetAll_turn] at hsent
      rcases List.mem_append.mp hsent with hsent | hsent
      · exact (hreply.sent hsent).imp_right hfirst
      · have hnext : (Turn.mk s moment).after.Numbered := (meet_met moment s).numbered hnumbered
        rcases ih hnext hsent with hkept | hmade
        · rw [hreply.entries hnumbered] at hkept
          rcases List.mem_append.mp hkept with hkept | hmade
          · exact .inl (List.mem_of_mem_filter hkept)
          · exact .inr (hfirst (Option.mem_toList.mp hmade))
        · right
          obtain ⟨t, ht, hasked⟩ := List.mem_filterMap.mp hmade
          exact List.mem_filterMap.mpr ⟨t, List.mem_cons_of_mem _ ht, hasked⟩

/-! ## The requests that are asked for -/

theorem filterMap_asked_lines (lines : List (Except Frame.Error String)) (s : Session) :
    (s.turns (lines.map .line)).filterMap Turn.asked? = [] := by
  induction lines generalizing s with
  | nil => rfl
  | cons line rest ih => exact ih (s.meet (.line line)).1

theorem length_asked_moments (input : Input) (s : Session) :
    ((s.bare.turns (s.moments input)).filterMap Turn.asked?).length =
      if input.isRequest then 1 else 0 := by
  cases input with
  | received fragment =>
      by_cases hlive : s.status.live
      · rw [moments, if_pos hlive, filterMap_asked_lines]
        rfl
      · rw [moments, if_neg hlive]
        rfl
  | start | connect | opened | lost cause | request payload => rfl

theorem length_asked (h : Tidy s) (inputs : List Input) :
    ((s.turnsOf inputs).filterMap Turn.asked?).length = inputs.countP Input.isRequest := by
  induction inputs generalizing s with
  | nil => rfl
  | cons input rest ih =>
      rw [turnsOf_cons h, List.filterMap_append, List.length_append, length_asked_moments,
        ih (h.step input), List.countP_cons, Nat.add_comm]

theorem turnsOf_append (h : Tidy s) (first second : List Input) :
    s.turnsOf (first ++ second) = s.turnsOf first ++ (s.steps first).1.turnsOf second := by
  induction first generalizing s with
  | nil => rfl
  | cons input rest ih =>
      rw [List.cons_append, turnsOf_cons h, turnsOf_cons h, ih (h.step input), List.append_assoc]
      rfl

theorem getElem?_asked (h : Tidy s) (before later : List Input) (payload : Json) :
    ((s.turnsOf (before ++ .request payload :: later)).filterMap Turn.asked?)[
        before.countP Input.isRequest]? =
      some ⟨(s.steps before).1.nextRequestId, (s.steps before).1.responseCursor, payload⟩ := by
  have hlength := length_asked h before
  rw [turnsOf_append h, turnsOf_cons (h.steps before), List.filterMap_append,
    List.filterMap_append, List.getElem?_append_right (by omega)]
  simp [hlength, moments, turns, Turn.asked?, bare]

theorem nextRequestId_steps (h : Tidy s) (inputs : List Input) :
    (s.steps inputs).1.nextRequestId = s.nextRequestId + inputs.countP Input.isRequest := by
  have hlast := congrArg (fun result => result.1.nextRequestId) (steps_history h inputs)
  have hasked := (consecutive_asked (s.history inputs) s.bare).length_eq
  have hlength := length_asked h inputs
  simp only [turnsOf, bare] at hlast hasked hlength
  omega

/-- The outbox of a session holds the requests that were made and not exceeded since.  Requests are
numbered in the order in which they are made, and each of them is sent unchanged, as often as it is
sent. -/
theorem pending_unacknowledged (config : Config) (inputs : List Input) :
    let s := ((new config).steps inputs).1
    let effects := ((new config).steps inputs).2
    let turns := (new config).turnsOf inputs
    let made := turns.filterMap Turn.asked?
    effects = turns.flatMap Turn.effects ∧
    made.length = inputs.countP Input.isRequest ∧
    s.nextRequestId = config.initialRequestId + made.length ∧
    (∀ before payload later, inputs = before ++ .request payload :: later →
      made[before.countP Input.isRequest]? =
        some ⟨config.initialRequestId + before.countP Input.isRequest,
          ((new config).steps before).1.responseCursor, payload⟩) ∧
    s.outbox.entries = unacknowledged turns ∧
    Consecutive s.firstPending s.nextRequestId s.outbox.entries ∧
    (∀ request, .send (.request request) ∈ effects → request ∈ made) ∧
    ∀ first second, .send (.request first) ∈ effects → .send (.request second) ∈ effects →
      first.id = second.id → first = second := by
  intro s effects turns made
  have htidy : Tidy (new config) := .new config
  obtain ⟨hfinal, heffects⟩ := Prod.mk.inj (steps_new config inputs)
  have hlength : made.length = inputs.countP Input.isRequest := length_asked htidy inputs
  have hsent (request : Request) (hmem : .send (.request request) ∈ effects) :
      request ∈ made := by
    have hrun : .send (.request request) ∈
        ((new config).meetAll ((new config).history inputs)).2 := by
      rwa [← heffects]
    exact (asked_of_sent (.new config) hrun).resolve_left List.not_mem_nil
  refine ⟨(effects_turnsOf config inputs).symm, hlength, ?_, ?_, ?_, ?_, hsent, ?_⟩
  · rw [hlength]
    exact nextRequestId_steps htidy inputs
  · intro before payload later hinputs
    have hmade := getElem?_asked htidy before later payload
    rw [← hinputs, nextRequestId_steps htidy before] at hmade
    exact hmade
  · have hentries := entries_meetAll (.new config) ((new config).history inputs)
    rw [← hfinal] at hentries
    exact hentries
  · have hnumbered := (Numbered.new config).meetAll ((new config).history inputs)
    rw [← hfinal] at hnumbered
    exact hnumbered
  · intro first second hfirst hsecond hid
    exact (consecutive_asked ((new config).history inputs) (new config).bare).eq_of_seq_eq
      (hsent first hfirst) (hsent second hsecond) hid

end Session

end ResumableSession
