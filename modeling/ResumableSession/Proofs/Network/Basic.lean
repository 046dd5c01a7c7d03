import Mathlib.Logic.Function.Basic
import ResumableSession.Proofs.Session.Frame
import ResumableSession.Remote.Step

/-!
One client, the other side, and the connections between them.

The client has one connection at a time, and each one is a channel of the other side.  When a
connection is lost, so is everything that is under way to the client.  What the client has sent
on it is not lost: it may arrive at any later time, also when the client has gone on to other
connections since.  The other side is handed a message as it is, and the client is handed the
bytes of its frame.

`step` says what one move does, and `run` what a list of moves does.  The moves stand for all
that may happen, in any order; one that is impossible at the time changes nothing.
-/

namespace ResumableSession

structure Network where
  client : Session
  remote : Remote
  /-- The channel of the present connection. -/
  current : Option Nat := none
  /-- What the client sent on each channel and what has not arrived yet, in order. -/
  uplink : Nat → List ClientMessage := fun _ => []
  downlink : List ServerMessage := []
  requested : List Json := []
  /-- The payloads that the other side was given to send, each with its session. -/
  responded : List (String × Json) := []
  effects : List Effect := []
  actions : List Action := []

def Effect.quiet : Effect → Bool
  | .deliver _ | .report (.outOfOrder _ _) => false
  | _ => true

theorem Effect.quiet_sends (messages : List ClientMessage) (status : Status) :
    ∀ effect ∈ messages.map Effect.send ++ [.stateChanged status], effect.quiet := by
  intro effect hmem
  rcases List.mem_append.mp hmem with hmem | hmem
  · obtain ⟨message, -, rfl⟩ := List.mem_map.mp hmem
    rfl
  · obtain rfl := List.mem_singleton.mp hmem
    rfl

namespace Network

def new (stem : String) (reconnectDelay : Nat) (authToken : Option String) : Network :=
  { client := .new { reconnectDelay, authToken }, remote := .new stem }

/-! ## What can be observed -/

/-- The requests that the other side passed on, each with its number. -/
def accepted (n : Network) : List (Json × Nat) :=
  n.actions.filterMap fun
    | .deliver _ requestId payload => some (payload, requestId)
    | .send _ _ | .shutdown _ => none

def delivered (n : Network) : List Json :=
  n.effects.filterMap fun
    | .deliver payload => some payload
    | _ => none

def responsesTo (sessionId : String) (n : Network) : List Json :=
  (n.responded.filter (·.1 = sessionId)).map (·.2)

/-- The payloads that the other side was given to send for the session of the client. -/
def responsesToClient (n : Network) : List Json :=
  n.client.sessionId.elim [] n.responsesTo

/-! ## Moves -/

/-- Carries out an effect.  A new channel is greeted with the profile at once. -/
def perform (profile : Profile) (n : Network) (effect : Effect) : Network :=
  let n := { n with effects := n.effects ++ [effect] }
  match effect with
  | .openTransport =>
      let (channel, remote) := n.remote.openChannel
      { n with
        remote := (remote.handle channel (.hello profile)).2
        current := some channel
        downlink := [] }
  | .closeTransport => { n with current := none, downlink := [] }
  | .send message =>
      match n.current with
      | none => n
      | some channel =>
          { n with uplink := Function.update n.uplink channel (n.uplink channel ++ [message]) }
  | .scheduleReconnect _ | .stateChanged _ | .deliver _ | .report _ => n

def reaching (current : Option Nat) : Action → Option ServerMessage
  | .send channel message => if current = some channel then some message else none
  | .deliver _ _ _ | .shutdown _ => none

/-- The other side has acted.  What is sent on a channel that the client has left is gone. -/
def act (actions : List Action) (remote : Remote) (n : Network) : Network :=
  { n with
    remote
    downlink := n.downlink ++ actions.filterMap (reaching n.current)
    actions := n.actions ++ actions }

def react (profile : Profile) (result : Session × List Effect) (n : Network) : Network :=
  result.2.foldl (perform profile) { n with client := result.1 }

def feed (profile : Profile) (input : Input) (n : Network) : Network :=
  n.react profile (n.client.step input)

def answer (result : Remote.Answer) (n : Network) : Network :=
  match result with
  | (.error _, remote) => n.act [] remote
  | (.ok actions, remote) => n.act actions remote

inductive Move where
  | request (payload : Json)
  | connect
  | opened
  /-- The next message on a channel arrives at the other side. -/
  | arrive (channel : Nat)
  | receive
  | lose (cause : TransportError)
  | close (channel : Nat)
  | respond (sessionId : String) (payload : Json)
  deriving DecidableEq, Repr

def step (profile : Profile) (n : Network) (move : Move) : Network :=
  match move with
  | .request payload =>
      { n with requested := n.requested ++ [payload] }.feed profile (.request payload)
  | .connect => n.feed profile .connect
  | .opened =>
      match n.current with
      | none => n
      | some _ => n.feed profile .opened
  | .arrive channel =>
      match n.uplink channel with
      | [] => n
      | message :: rest =>
          { n with uplink := Function.update n.uplink channel rest }.answer
            (n.remote.handle channel message)
  | .receive =>
      match n.downlink with
      | [] => n
      | message :: rest =>
          { n with downlink := rest }.feed profile
            (.received (Text.Utf8.encode message.frame))
  | .lose cause =>
      match n.current with
      | none => n
      | some _ => n.feed profile (.lost cause)
  | .close channel => { n with remote := (n.remote.closeChannel channel).2 }
  | .respond sessionId payload =>
      match n.remote.respond sessionId payload with
      | (.error _, _) => n
      | (.ok actions, remote) =>
          { n with responded := n.responded ++ [(sessionId, payload)] }.act actions remote

def run (profile : Profile) (moves : List Move) (n : Network) : Network :=
  moves.foldl (step profile) n

/-! ## What single moves do -/

theorem delivered_append {m n : Network} {effects : List Effect}
    (heffects : m.effects = n.effects ++ effects) (hquiet : ∀ effect ∈ effects, effect.quiet) :
    m.delivered = n.delivered := by
  rw [delivered, heffects, List.filterMap_append, delivered]
  apply List.append_right_eq_self.mpr
  apply List.filterMap_eq_nil_iff.mpr
  intro effect hmem
  have := hquiet effect hmem
  cases effect <;> first | rfl | contradiction

theorem delivered_push {m n : Network} {payload : Json}
    (heffects : m.effects = n.effects ++ [.deliver payload]) :
    m.delivered = n.delivered ++ [payload] := by
  rw [delivered, heffects, List.filterMap_append, delivered]
  rfl

theorem accepted_append {m n : Network} {actions : List Action}
    (hactions : m.actions = n.actions ++ actions)
    (hquiet : ∀ action ∈ actions, ∀ sessionId id payload,
      action ≠ .deliver sessionId id payload) :
    m.accepted = n.accepted := by
  rw [accepted, hactions, List.filterMap_append, accepted]
  apply List.append_right_eq_self.mpr
  apply List.filterMap_eq_nil_iff.mpr
  intro action hmem
  have := hquiet action hmem
  cases action with
  | send | shutdown => rfl
  | deliver sessionId id payload => exact absurd rfl (this sessionId id payload)

theorem accepted_push {m n : Network} {sessionId : String} {id : Nat} {payload : Json}
    (hactions : m.actions = n.actions ++ [.deliver sessionId id payload]) :
    m.accepted = n.accepted ++ [(payload, id)] := by
  rw [accepted, hactions, List.filterMap_append, accepted]
  rfl

theorem perform_sends (profile : Profile) {n : Network} {channel : Nat}
    (hcurrent : n.current = some channel) (messages : List ClientMessage) :
    (messages.map .send).foldl (perform profile) n =
      { n with
        uplink := Function.update n.uplink channel (n.uplink channel ++ messages)
        effects := n.effects ++ messages.map .send } := by
  induction messages generalizing n with
  | nil => simp
  | cons message rest ih =>
      rw [List.map_cons, List.foldl_cons]
      simp only [perform, hcurrent]
      rw [ih rfl]
      simp

theorem react_sends (profile : Profile) {n : Network} {channel : Nat}
    (hcurrent : n.current = some channel) (client : Session) (messages : List ClientMessage)
    (status : Status) :
    n.react profile (client, messages.map .send ++ [.stateChanged status]) =
      { n with
        client
        uplink := Function.update n.uplink channel (n.uplink channel ++ messages)
        effects := n.effects ++ (messages.map .send ++ [.stateChanged status]) } := by
  have hsends := perform_sends (n := { n with client }) profile hcurrent messages
  rw [react, List.foldl_append, hsends]
  simp [perform]

end Network

end ResumableSession
