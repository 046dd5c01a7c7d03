import ResumableSession.Proofs.Session.CatchUp
import ResumableSession.Proofs.Session.Changes

/-!
Which status can follow which.

A session is to be asked for a connection, to be told that it is open, and then to be welcomed or
turned away.  A message that comes in while the connection is still being opened is taken like any
other, though, and so the session may be attached, or rejected, before it has sent its opener.

`changes_follow_graph` says that there is no other way around the order, and by `leads_steps` there
is none at all for bytes that come in when they should.
-/

namespace ResumableSession

/-! ## The graph -/

/-- The statuses that are meant to follow a status. -/
def Status.next : Status → List Status
  | .disconnected => [.awaitingConnect]
  | .awaitingConnect => [.connected, .disconnected]
  | .connected => [.attached, .disconnected, .rejected]
  | .attached => [.disconnected, .rejected]
  | .rejected => []

/-- The statuses that a message can bring about. -/
def Status.nextByLine : Status → List Status
  | .disconnected | .rejected => []
  | .awaitingConnect | .connected => [.attached, .disconnected, .rejected]
  | .attached => [.disconnected, .rejected]

theorem Status.next_of_nextByLine {status after : Status} (hopen : status ≠ .awaitingConnect)
    (h : after ∈ status.nextByLine) : after ∈ status.next ∧ after ≠ .awaitingConnect := by
  cases status <;> cases after <;> simp_all [nextByLine, next]

theorem Status.disconnected_mem {status : Status} (h : status.live) :
    .disconnected ∈ status.next ∧ .disconnected ∈ status.nextByLine := by
  cases status <;> simp_all [live, next, nextByLine]

theorem Status.rejected_mem {status : Status} (h : status.live) :
    .rejected ∈ status.nextByLine := by
  cases status <;> simp_all [live, nextByLine]

def told (effects : List Effect) : List Status :=
  effects.filterMap fun
    | .stateChanged status => some status
    | .openTransport | .closeTransport | .send _ | .scheduleReconnect _ | .deliver _
    | .report _ => none

/-- From one status to another one, by way of those that are told. -/
def Leads (next : Status → List Status) : Status → List Status → Status → Prop
  | first, [], last => first = last
  | first, status :: rest, last => status ∈ next first ∧ Leads next status rest last

namespace Leads

variable {next : Status → List Status} {first middle last : Status}
  {earlier later statuses : List Status}

instance decidable (next : Status → List Status) :
    (first : Status) → (statuses : List Status) → (last : Status) →
      Decidable (Leads next first statuses last)
  | first, [], last => inferInstanceAs (Decidable (first = last))
  | first, status :: rest, last =>
      have := decidable next status rest last
      inferInstanceAs (Decidable (status ∈ next first ∧ Leads next status rest last))

theorem append (hearlier : Leads next first earlier middle)
    (hlater : Leads next middle later last) : Leads next first (earlier ++ later) last := by
  induction earlier generalizing first with
  | nil =>
      obtain rfl : first = middle := hearlier
      exact hlater
  | cons status rest ih => exact ⟨hearlier.1, ih hearlier.2⟩

theorem next_of_nextByLine (hopen : first ≠ .awaitingConnect)
    (h : Leads Status.nextByLine first statuses last) : Leads Status.next first statuses last := by
  induction statuses generalizing first with
  | nil => exact h
  | cons status rest ih =>
      obtain ⟨hstatus, hother⟩ := Status.next_of_nextByLine hopen h.1
      exact ⟨hstatus, ih hother h.2⟩

theorem connected_not_mem (h : Leads Status.nextByLine first statuses last) :
    .connected ∉ statuses := by
  induction statuses generalizing first with
  | nil => exact List.not_mem_nil
  | cons status rest ih =>
      have hstatus : Status.connected ≠ status := by
        rintro rfl
        have hmem := h.1
        cases first <;> simp [Status.nextByLine] at hmem
      rw [List.mem_cons, not_or]
      exact ⟨hstatus, ih h.2⟩

end Leads

/-! ## Single moments -/

theorem told_of_talk {talk : List Effect} (plain : ∀ effect ∈ talk, effect.talk) :
    told talk = [] := by
  refine List.filterMap_eq_nil_iff.mpr fun effect hmem => ?_
  have heffect := plain effect hmem
  cases effect with
  | stateChanged status => contradiction
  | openTransport | closeTransport | send message | scheduleReconnect delay | deliver payload
  | report error => rfl

theorem told_append (first second : List Effect) :
    told (first ++ second) = told first ++ told second :=
  List.filterMap_append

theorem told_ending (delay : Nat) (ending : Ending) :
    told (ending.effects delay) = [ending.status] := by
  cases ending <;> rfl

theorem Change.leads {delay : Nat} {moment : Moment} {status after : Status} {effects : List Effect}
    (h : Change delay moment status after effects) :
    Leads (if moment.isLine then Status.nextByLine else Status.next) status (told effects)
      after := by
  cases h with
  | idles => rfl
  | talks live talk plain =>
      rw [told_of_talk plain]
      rfl
  | opens unheard =>
      rw [unheard]
      decide
  | connects opened talk plain =>
      rw [told_append, told_of_talk plain, opened]
      decide
  | attaches fresh talk plain heard =>
      rw [told_append, told_of_talk plain, heard]
      rcases fresh with rfl | rfl <;> decide
  | ends live ending heard =>
      rw [told_ending]
      refine ⟨?_, rfl⟩
      cases ending with
      | rejected =>
          rw [if_pos (heard rfl)]
          exact Status.rejected_mem live
      | lost cause | undecodable error =>
          split
          · exact (Status.disconnected_mem live).2
          · exact (Status.disconnected_mem live).1

theorem Change.opened_of_told {delay : Nat} {moment : Moment} {status after : Status}
    {effects : List Effect} (h : Change delay moment status after effects)
    (htold : .connected ∈ told effects) : moment = .opened := by
  cases h with
  | idles => contradiction
  | talks live talk plain =>
      rw [told_of_talk plain] at htold
      contradiction
  | opens unheard => simp [told] at htold
  | connects opened talk plain => exact opened
  | attaches fresh talk plain heard =>
      rw [told_append, told_of_talk plain] at htold
      simp [told] at htold
  | ends live ending heard =>
      rw [told_ending] at htold
      cases ending <;> simp [Ending.status] at htold

/-! ## Inputs -/

def Input.isFragment : Input → Bool
  | .received _ => true
  | .start | .connect | .opened | .lost _ | .request _ => false

namespace Session

variable {s : Session}

theorem leads_meetAll_lines (lines : List (Except Frame.Error String)) (s : Session) :
    Leads Status.nextByLine s.status (told (s.meetAll (lines.map .line)).2)
      (s.meetAll (lines.map .line)).1.status := by
  induction lines generalizing s with
  | nil => rfl
  | cons line rest ih =>
      rw [List.map_cons, meetAll_cons, told_append]
      exact (meet_change (.line line) s).leads.append (ih (s.meet (.line line)).1)

theorem leads_received (hsound : s.buffer.Sound) (fragment : List UInt8) :
    Leads Status.nextByLine s.status (told (s.received fragment).2)
      (s.received fragment).1.status := by
  by_cases hlive : s.status.live
  · obtain ⟨hafter, heffects⟩ := Prod.mk.inj (step_moments hsound (.received fragment))
    rw [moments, if_pos hlive] at hafter heffects
    have hleads := leads_meetAll_lines
      (Frame.Queue.drain (s.buffer.residual ++ fragment)).1 s.bare
    rw [← hafter, ← heffects] at hleads
    exact hleads
  · rw [received_of_not_live hlive]
    rfl

theorem leads_step (hsound : s.buffer.Sound) (input : Input) :
    Leads
      (if s.status = .awaitingConnect ∧ input.isFragment then Status.nextByLine else Status.next)
      s.status (told (s.step input).2) (s.step input).1.status := by
  cases input with
  | received fragment =>
      have hleads := leads_received hsound fragment
      split
      · exact hleads
      · next hopen => exact hleads.next_of_nextByLine fun hwaiting => hopen ⟨hwaiting, rfl⟩
  | start | connect =>
      rw [if_neg (by simp [Input.isFragment])]
      exact (meet_change .connect s).leads
  | opened =>
      rw [if_neg (by simp [Input.isFragment])]
      exact (meet_change .opened s).leads
  | lost cause =>
      rw [if_neg (by simp [Input.isFragment])]
      exact (meet_change (.lost cause) s).leads
  | request payload =>
      rw [if_neg (by simp [Input.isFragment])]
      exact (meet_change (.request payload) s).leads

theorem opener_sent (hsound : s.buffer.Sound) {input : Input}
    (htold : .connected ∈ told (s.step input).2) :
    input = .opened ∧ .send s.opener ∈ (s.step input).2 := by
  have hother (moment : Moment) (htold : .connected ∈ told (s.meet moment).2) :
      moment = .opened := (meet_change moment s).opened_of_told htold
  cases input with
  | start | connect => cases hother .connect htold
  | lost cause => cases hother (.lost cause) htold
  | request payload => cases hother (.request payload) htold
  | received fragment =>
      exact absurd htold (leads_received hsound fragment).connected_not_mem
  | opened =>
      refine ⟨rfl, ?_⟩
      by_cases hwaiting : s.status = .awaitingConnect
      · rw [step, opened_of_waiting hwaiting]
        simp
      · have hnothing : s.step .opened = (s, []) := if_neg hwaiting
        rw [hnothing] at htold
        contradiction

/-- No bytes come in before the connection that they come in on is open. -/
def Orderly (inputs : List Input) (s : Session) : Prop :=
  match inputs with
  | [] => True
  | input :: rest =>
      ¬ (s.status = .awaitingConnect ∧ input.isFragment) ∧ (s.step input).1.Orderly rest

theorem leads_steps (h : Tidy s) {inputs : List Input} (horderly : s.Orderly inputs) :
    Leads Status.next s.status (told (s.steps inputs).2) (s.steps inputs).1.status := by
  induction inputs generalizing s with
  | nil => rfl
  | cons input rest ih =>
      have hfirst := leads_step h.sound input
      rw [if_neg horderly.1] at hfirst
      rw [steps, told_append]
      exact hfirst.append (ih (h.step input) horderly.2)

/-- Whatever the input, the session goes from status to status along the graph, unless it is given
bytes before its connection is open.  Then it goes where messages lead it.  It is connected by the
opening of its connection only, and not without sending its opener. -/
theorem changes_follow_graph (config : Config) (before : List Input) (input : Input) :
    let s := ((new config).steps before).1
    let result := s.step input
    Leads
      (if s.status = .awaitingConnect ∧ input.isFragment then Status.nextByLine else Status.next)
      s.status (told result.2) result.1.status ∧
    (.connected ∈ told result.2 → input = .opened ∧ .send s.opener ∈ result.2) := by
  intro s result
  have hsound : s.buffer.Sound := ((Tidy.new config).steps before).sound
  exact ⟨leads_step hsound input, opener_sent hsound⟩

/-- A message that comes in too early attaches the session, and no opener is ever sent. -/
theorem early_welcome_attaches :
    let welcome := Text.Utf8.encode
      (Frame.wrap (ServerMessage.encode (.success "s:1" 1000 ⟨"u", "g"⟩)))
    let s := ((new {}).steps [.connect]).1
    let result := s.step (.received welcome)
    s.status = .awaitingConnect ∧ result.1.status = .attached ∧
      ((new {}).steps [.connect, .received welcome, .opened]).2 =
        [.stateChanged .awaitingConnect, .openTransport, .stateChanged .attached] ∧
      ¬ Leads Status.next s.status (told result.2) result.1.status := by
  decide +kernel

end Session

end ResumableSession
