import ResumableSession.Dispatch.Reaction
import ResumableSession.Dispatch.Step
import ResumableSession.Session.Payload

/-!
A host that only pretends.

It records what it is asked to do and calls the dispatcher back as it was told beforehand.  Its
connections are numbered in the order of their opening.
-/

namespace ResumableSession

namespace Rehearsal

inductive Entry where
  | refused
  | opened (generation : Nat)
  | closed
  | sent (text : String)
  | reconnect (delay : Nat)
  | state (status : Status)
  | delivered (payload : Json)
  | failed (error : PayloadError)
  deriving DecidableEq, Repr

inductive Step where
  | call (call : Call)
  | request (payload : String)
  | refuse (value : Bool)
  deriving DecidableEq, Repr

end Rehearsal

structure Rehearsal where
  generation : Option Nat := none
  /-- How many connections were opened. -/
  opened : Nat := 0
  /-- Whether attempts to open a connection fail. -/
  refuse : Bool := false
  log : List Rehearsal.Entry := []
  reactions : List (Reaction Rehearsal.Step) := []
  /-- What is left to do of the present reaction. -/
  script : List Rehearsal.Step := []
  deriving DecidableEq, Repr

namespace Rehearsal

def record (entry : Entry) (r : Rehearsal) : Rehearsal :=
  { r with log := r.log ++ [entry] }

def giveCue (cue : String) (r : Rehearsal) : Rehearsal :=
  let (reaction, reactions) := Reaction.take cue r.reactions
  { r with reactions, script := Reaction.stepsOf reaction }

def enter (call : HostCall) (r : Rehearsal) : Option String × Rehearsal :=
  match call with
  | .openTransport =>
      if r.refuse then (some "refused", (r.record .refused).giveCue "refused")
      else
        let opened := r.opened + 1
        (none,
          ({ r with opened, generation := some opened }.record (.opened opened)).giveCue "open")
  | .closeTransport => (none, ({ r with generation := none }.record .closed).giveCue "close")
  | .send text => (none, (r.record (.sent text)).giveCue "send")
  | .scheduleReconnect delay => (none, (r.record (.reconnect delay)).giveCue "reconnect")
  | .stateChanged status => (none, (r.record (.state status)).giveCue status.name)
  | .deliver payload => (none, (r.record (.delivered payload)).giveCue "deliver")

def runScript (script : List Step) (r : Rehearsal) : Option Call × Rehearsal :=
  match script with
  | [] => (none, { r with script := [] })
  | .call call :: rest => (some call, { r with script := rest })
  | .refuse value :: rest => runScript rest { r with refuse := value }
  | .request payload :: rest =>
      match Input.ofPayloadText payload with
      | .ok input => (some (.submit input), { r with script := rest })
      | .error error => runScript rest (r.record (.failed error))

def credit (r : Rehearsal) : Nat :=
  r.script.length + Reaction.stepCount r.reactions

theorem credit_giveCue_le (cue : String) (r : Rehearsal) : (r.giveCue cue).credit ≤ r.credit := by
  have := Reaction.stepCount_take cue r.reactions
  simp only [credit, giveCue]
  omega

theorem credit_enter_le (call : HostCall) (r : Rehearsal) : (r.enter call).2.credit ≤ r.credit := by
  cases call
  case openTransport =>
      by_cases h : r.refuse = true
      · rw [enter, if_pos h]
        exact credit_giveCue_le _ _
      · rw [enter, if_neg h]
        exact credit_giveCue_le _ _
  all_goals exact credit_giveCue_le _ _

theorem credit_runScript (script : List Step) (r : Rehearsal) :
    (runScript script r).2.credit + (if (runScript script r).1.isSome then 1 else 0) ≤
      script.length + Reaction.stepCount r.reactions := by
  fun_induction runScript script r with
  | case1 => exact Nat.le_refl _
  | case2 =>
      simp only [credit, Option.isSome_some, if_pos, List.length_cons]
      omega
  | case3 _ _ _ ih => simp only [List.length_cons] at ih ⊢; omega
  | case4 =>
      simp only [credit, Option.isSome_some, if_pos, List.length_cons]
      omega
  | case5 _ _ _ _ _ ih => simp only [record, List.length_cons] at ih ⊢; omega

def host : Host Rehearsal where
  generation := Rehearsal.generation
  note _ r := r
  enter := enter
  resume _ r := runScript r.script r
  leave _ r := r
  credit := credit
  credit_note_le _ _ := Nat.le_refl _
  credit_enter_le := credit_enter_le
  credit_resume_le _ r := Nat.le_trans (Nat.le_add_right _ _) (credit_runScript r.script r)
  credit_resume_lt _ r h := by
    have := credit_runScript r.script r
    rwa [if_pos h] at this
  credit_leave_le _ _ := Nat.le_refl _

def perform (step : Step) (d : Dispatch Rehearsal) : Except PayloadError (Dispatch Rehearsal) :=
  match step with
  | .call call => .ok (d.perform host call)
  | .refuse value => .ok { d with host := { d.host with refuse := value } }
  | .request payload => do
      let input ← Input.ofPayloadText payload
      .ok (d.perform host (.submit input))

def clearLog (d : Dispatch Rehearsal) : Dispatch Rehearsal :=
  { d with host := { d.host with log := [] } }

end Rehearsal

end ResumableSession
