import ResumableSession.Proofs.Frame.Search
import ResumableSession.Proofs.Session.Steps

/-!
What happens to a session, one thing at a time.

A fragment may complete several lines, one line, or none.  A `Moment` is what is left when a
fragment is replaced by its lines.  A line means nothing to a session that is not `live`, and so
no account has to be taken of where the reading of a fragment stops.

`step_moments` ties the two together: an input does to a session what its moments do, except for
the bytes that are still to be read.
-/

namespace ResumableSession

/-- Whether there is a connection, or one is being opened. -/
def Status.live : Status → Bool
  | .disconnected | .rejected => false
  | .awaitingConnect | .connected | .attached => true

inductive Moment where
  | connect
  | opened
  | lost (cause : TransportError)
  | line (line : Except Frame.Error String)
  | request (payload : Json)

namespace Session

variable {s : Session}

def takeLine (line : Except Frame.Error String) (s : Session) : Session × List Effect :=
  match readLine line with
  | .error error => s.dropConnection (.undecodable error)
  | .ok message => s.handle message

def meet (moment : Moment) (s : Session) : Session × List Effect :=
  match moment with
  | .connect => s.connect
  | .opened => s.opened
  | .lost cause => s.lost cause
  | .line line => if s.status.live then s.takeLine line else (s, [])
  | .request payload => s.request payload

def meetAll (moments : List Moment) (s : Session) : Session × List Effect :=
  match moments with
  | [] => (s, [])
  | moment :: rest =>
      let (after, effects) := s.meet moment
      let (final, more) := after.meetAll rest
      (final, effects ++ more)

theorem meetAll_cons (moment : Moment) (rest : List Moment) (s : Session) :
    s.meetAll (moment :: rest) =
      (((s.meet moment).1.meetAll rest).1,
        (s.meet moment).2 ++ ((s.meet moment).1.meetAll rest).2) :=
  rfl

theorem meetAll_append (first second : List Moment) (s : Session) :
    s.meetAll (first ++ second) =
      (((s.meetAll first).1.meetAll second).1,
        (s.meetAll first).2 ++ ((s.meetAll first).1.meetAll second).2) := by
  induction first generalizing s with
  | nil => simp [meetAll]
  | cons moment rest ih => simp [meetAll, ih]

theorem meetAll_lines_of_not_live (h : ¬ s.status.live) (lines : List (Except Frame.Error String)) :
    s.meetAll (lines.map .line) = (s, []) := by
  induction lines with
  | nil => rfl
  | cons line rest ih =>
      have hmeet : s.meet (.line line) = (s, []) := if_neg h
      rw [List.map_cons, meetAll_cons, hmeet, ih]
      rfl

/-! ## A session without its bytes -/

def bare (s : Session) : Session :=
  { s with buffer := .empty }

theorem enter_bare (status : Status) (s : Session) :
    enter status s.bare = ((enter status s).1.bare, (enter status s).2) := by
  unfold enter bare
  split <;> rfl

theorem dropConnection_bare (cause : SessionError) (s : Session) :
    s.bare.dropConnection cause =
      ((s.dropConnection cause).1.bare, (s.dropConnection cause).2) := by
  simp only [dropConnection, enter_bare]
  rfl

theorem handle_bare (message : ServerMessage) (s : Session) :
    s.bare.handle message = ((s.handle message).1.bare, (s.handle message).2) := by
  cases message with
  | success sessionId requestCursor profile =>
      have henter := enter_bare .attached
        { s with
          sessionId := some sessionId, profile := some profile
          outbox := s.outbox.dropBelow requestCursor }
      simp only [bare] at henter
      simp only [handle, succeeded, bare, henter]
  | failure => simp only [handle, refused, enter_bare]
  | response response =>
      by_cases hid : response.id = s.responseCursor
      · simp [handle, responded, bare, hid]
      · simp [handle, responded, bare, hid]

theorem takeLine_bare (line : Except Frame.Error String) (s : Session) :
    s.bare.takeLine line = ((s.takeLine line).1.bare, (s.takeLine line).2) := by
  unfold takeLine
  split
  · exact dropConnection_bare _ s
  · exact handle_bare _ s

theorem meet_bare (moment : Moment) (s : Session) :
    s.bare.meet moment = ((s.meet moment).1.bare, (s.meet moment).2) := by
  have hstatus : s.bare.status = s.status := rfl
  cases moment with
  | connect =>
      by_cases hdown : s.status = .disconnected
      · simp [meet, connect, enter, bare, hdown]
      · simp [meet, connect, bare, hdown]
  | opened =>
      by_cases hwaiting : s.status = .awaitingConnect
      · simp [meet, opened, opener, enter, bare, hwaiting]
      · simp [meet, opened, bare, hwaiting]
  | lost cause =>
      have hdrop := dropConnection_bare (.transport cause) s
      simp only [meet, lost, hstatus]
      split
      · rfl
      · rfl
      · exact hdrop
      · exact hdrop
      · exact hdrop
  | line line =>
      simp only [meet, hstatus]
      split
      · exact takeLine_bare line s
      · rfl
  | request payload =>
      simp only [meet, request, hstatus]
      rfl

/-! ## Reading -/

theorem handle_live (hlive : s.status.live) {message : ServerMessage}
    (hgoes : (s.handle message).1.status ≠ .rejected) : (s.handle message).1.status.live := by
  cases message with
  | success sessionId requestCursor profile =>
      simp only [handle, succeeded, enter]
      split
      · exact hlive
      · rfl
  | failure =>
      have hrejected : (s.handle .failure).1.status = .rejected := by
        simp only [handle, refused, enter]
        split
        · assumption
        · rfl
      exact absurd hrejected hgoes
  | response response =>
      simp only [handle, responded]
      split
      · exact hlive
      · exact hlive

theorem dropConnection_buffer (cause : SessionError) (s : Session) :
    (s.dropConnection cause).1.buffer = s.buffer := by
  simp only [dropConnection, enter]
  split <;> rfl

theorem dropConnection_status (cause : SessionError) (s : Session) :
    (s.dropConnection cause).1.status = .disconnected := by
  simp only [dropConnection, enter]
  split
  · assumption
  · rfl

/-- What reading the buffer comes to: the lines in it are dealt with, and in a session that is
still live no finished line is left behind. -/
structure Reads (lines : List (Except Frame.Error String)) (left : List UInt8) (s : Session)
    (result : Session × List Effect) : Prop where
  outcome : (result.1.bare, result.2) = s.bare.meetAll (lines.map .line)
  sound : result.1.buffer.Sound
  unread : result.1.status.live → result.1.buffer.residual = left

theorem Reads.last {line : Except Frame.Error String} {lines : List (Except Frame.Error String)}
    {left : List UInt8} {result : Session × List Effect}
    (hmeet : s.bare.meet (.line line) = (result.1.bare, result.2))
    (hsound : result.1.buffer.Sound) (hdown : ¬ result.1.status.live) :
    Reads (line :: lines) left s result where
  outcome := by
    have hbare : ¬ result.1.bare.status.live := hdown
    have hrest := meetAll_lines_of_not_live hbare lines
    rw [List.map_cons, meetAll_cons, hmeet, hrest, List.append_nil]
  sound := hsound
  unread hlive := absurd hlive hdown

theorem Reads.cons {line : Except Frame.Error String} {lines : List (Except Frame.Error String)}
    {left : List UInt8} {after : Session} {effects : List Effect}
    {later : Session × List Effect} (hmeet : s.bare.meet (.line line) = (after.bare, effects))
    (hlater : Reads lines left after later) :
    Reads (line :: lines) left s (later.1, effects ++ later.2) where
  outcome := by
    rw [List.map_cons, meetAll_cons, hmeet, ← hlater.outcome]
  sound := hlater.sound
  unread := hlater.unread

theorem consume_reads (hlive : s.status.live) (hsound : s.buffer.Sound) :
    Reads (Frame.Queue.drain s.buffer.residual).1 (Frame.Queue.drain s.buffer.residual).2 s
      s.consume := by
  -- By induction on the part of the buffer that has not been searched yet.
  induction hmeasure : s.buffer.unscanned using Nat.strongRecOn generalizing s with
  | ind n ih =>
      obtain ⟨hqueue, hrest⟩ := Frame.Buffer.next_eq hsound
      cases hnext : s.buffer.next with
      | mk answer buffer =>
          rw [hnext] at hqueue hrest
          cases answer with
          | none =>
              rw [Frame.Queue.drain_none hqueue.symm, consume_none hnext]
              exact ⟨rfl, hrest, fun _ => rfl⟩
          | some line =>
              have hmeet : s.bare.meet (.line line) =
                  (({ s with buffer }.takeLine line).1.bare, ({ s with buffer }.takeLine line).2) :=
                (if_pos hlive).trans (takeLine_bare line { s with buffer })
              rw [Frame.Queue.drain_some hqueue.symm, consume_some hnext]
              unfold takeLine at hmeet
              split
              · next error hread =>
                  simp only [hread] at hmeet
                  refine .last hmeet ?_ ?_
                  · rw [dropConnection_buffer]
                    exact hrest
                  · simp [dropConnection_status, Status.live]
              · next message hread =>
                  simp only [hread] at hmeet
                  have hbuffer := handle_buffer message { s with buffer }
                  have hsound : ({ s with buffer }.handle message).1.buffer.Sound := by
                    rw [hbuffer]
                    exact hrest
                  dsimp only
                  split
                  · next hrejected =>
                      refine .last hmeet hsound ?_
                      simp [hrejected, Status.live]
                  · next hgoes =>
                      have hless : ({ s with buffer }.handle message).1.buffer.unscanned < n := by
                        rw [hbuffer, ← hmeasure]
                        exact Frame.Buffer.unscanned_next_lt hnext
                      have hstill : ({ s with buffer }.handle message).1.status.live :=
                        handle_live (s := { s with buffer }) hlive hgoes
                      have hlater := ih _ hless hstill hsound rfl
                      rw [hbuffer] at hlater
                      exact .cons hmeet hlater

/-! ## Inputs -/

/-- The moments that an input stands for. -/
def moments (input : Input) (s : Session) : List Moment :=
  match input with
  | .start | .connect => [.connect]
  | .opened => [.opened]
  | .lost cause => [.lost cause]
  | .received fragment =>
      if s.status.live then (Frame.Queue.drain (s.buffer.residual ++ fragment)).1.map .line else []
  | .request payload => [.request payload]

theorem received_of_not_live (hdown : ¬ s.status.live) (fragment : List UInt8) :
    s.received fragment = (s, []) := by
  unfold received
  split
  · rfl
  · rfl
  all_goals simp_all [Status.live]

theorem received_reads (hlive : s.status.live) (hsound : s.buffer.Sound) (fragment : List UInt8) :
    Reads (Frame.Queue.drain (s.buffer.residual ++ fragment)).1
      (Frame.Queue.drain (s.buffer.residual ++ fragment)).2 s (s.received fragment) := by
  have hreceived : s.received fragment = { s with buffer := s.buffer.push fragment }.consume := by
    unfold received
    split <;> simp_all [Status.live]
  have hreads := consume_reads (s := { s with buffer := s.buffer.push fragment }) hlive
    (hsound.push fragment)
  rw [Frame.Buffer.residual_push hsound] at hreads
  rw [hreceived]
  exact ⟨hreads.outcome, hreads.sound, hreads.unread⟩

/-- An input does what its moments do. -/
theorem step_moments (hsound : s.buffer.Sound) (input : Input) :
    ((s.step input).1.bare, (s.step input).2) = s.bare.meetAll (s.moments input) := by
  have hsingle (moment : Moment) :
      s.bare.meetAll [moment] = ((s.meet moment).1.bare, (s.meet moment).2) := by
    rw [meetAll_cons, meet_bare]
    simp [meetAll]
  cases input with
  | start => exact (hsingle .connect).symm
  | connect => exact (hsingle .connect).symm
  | opened => exact (hsingle .opened).symm
  | lost cause => exact (hsingle (.lost cause)).symm
  | request payload => exact (hsingle (.request payload)).symm
  | received fragment =>
      by_cases hlive : s.status.live
      · rw [moments, if_pos hlive]
        exact (received_reads hlive hsound fragment).outcome
      · rw [moments, if_neg hlive, step, received_of_not_live hlive]
        rfl

/-! ## What is left in the buffer -/

def unreadAfter (input : Input) (s : Session) : List UInt8 :=
  if s.status.live then
    match input with
    | .received fragment => (Frame.Queue.drain (s.buffer.residual ++ fragment)).2
    | .start | .connect | .opened | .lost _ | .request _ => s.buffer.residual
  else []

structure Leaves (input : Input) (s t : Session) : Prop where
  sound : t.buffer.Sound
  unread : t.status.live → t.buffer.residual = s.unreadAfter input

theorem Leaves.keep {t : Session} {input : Input} (hsound : s.buffer.Sound)
    (hbuffer : t.buffer = s.buffer) (hlive : t.status.live → s.status.live)
    (hinput : s.unreadAfter input = if s.status.live then s.buffer.residual else []) :
    Leaves input s t where
  sound := by
    rw [hbuffer]
    exact hsound
  unread ht := by rw [hbuffer, hinput, if_pos (hlive ht)]

theorem connect_leaves (hsound : s.buffer.Sound) (input : Input)
    (hinput : s.unreadAfter input = if s.status.live then s.buffer.residual else []) :
    Leaves input s s.connect.1 := by
  by_cases hdown : s.status = .disconnected
  · have hconnect : s.connect.1 =
        { s with status := .awaitingConnect, attempts := s.attempts + 1, buffer := .empty } := by
      simp [connect, enter, hdown]
    rw [hconnect]
    refine ⟨.ofResidual [], fun _ => ?_⟩
    rw [hinput, hdown]
    rfl
  · have hconnect : s.connect = (s, []) := if_neg hdown
    rw [hconnect]
    exact .keep hsound rfl id hinput

theorem step_leaves (hsound : s.buffer.Sound) (input : Input) :
    Leaves input s (s.step input).1 := by
  cases input with
  | start => exact connect_leaves hsound .start rfl
  | connect => exact connect_leaves hsound .connect rfl
  | opened =>
      simp only [step, opened, enter]
      split
      · next hwaiting =>
          refine .keep hsound ?_ (fun _ => by simp [hwaiting, Status.live]) rfl
          split <;> rfl
      · exact .keep hsound rfl id rfl
  | lost cause =>
      simp only [step, lost]
      split
      · exact .keep hsound rfl id rfl
      · exact .keep hsound rfl id rfl
      all_goals
        refine .keep hsound (dropConnection_buffer _ _) (fun hlive => ?_) rfl
        simp [dropConnection_status, Status.live] at hlive
  | received fragment =>
      by_cases hlive : s.status.live
      · have hreads := received_reads hlive hsound fragment
        refine ⟨hreads.sound, fun hstill => ?_⟩
        unfold unreadAfter
        rw [if_pos hlive]
        exact hreads.unread hstill
      · rw [step, received_of_not_live hlive]
        exact ⟨hsound, fun hstill => absurd hstill hlive⟩
  | request payload => exact .keep hsound rfl id rfl

structure Tidy (s : Session) : Prop where
  sound : s.buffer.Sound
  open_ended : s.status.live → Frame.newline ∉ s.buffer.residual

theorem Tidy.new (config : Config) : Tidy (.new config) where
  sound := .ofResidual []
  open_ended hlive := absurd hlive Bool.false_ne_true

theorem Tidy.step (h : Tidy s) (input : Input) : Tidy (s.step input).1 := by
  obtain ⟨hsound, hleft⟩ := step_leaves h.sound input
  refine ⟨hsound, fun hlive => ?_⟩
  rw [hleft hlive]
  unfold unreadAfter
  split
  · next hbefore =>
      split
      · exact Frame.Queue.newline_not_mem_drain _
      all_goals exact h.open_ended hbefore
  · exact List.not_mem_nil

theorem Tidy.steps (h : Tidy s) (inputs : List Input) : Tidy (s.steps inputs).1 := by
  induction inputs generalizing s with
  | nil => exact h
  | cons input rest ih => exact ih (h.step input)

end Session

end ResumableSession
