import ResumableSession.Proofs.Client.OneSocket

/-!
The socket that a message is sent on.

A message that is due finds the connection that it was meant for.  This is so for every host that
tells of its connections from outside only, and a client is such a host.  So a client never has to
drop a message, and it never sends one on the socket of another connection.
-/

namespace ResumableSession

open Dispatch

namespace Shell

theorem send_of_current {s : Shell} {transport : Transport} (h : s.slot = .current transport)
    (text : String) :
    s.send text = (s.record (.sent transport.socket text)).complain .warn "WebSocket send failed"
      s.page.sendThrows := by
  unfold send
  split
  · next present hslot =>
      obtain rfl := Slot.current.inj (h.symm.trans hslot)
      rfl
  all_goals simp_all

end Shell

namespace Client

variable {options : Options} {reactions : List (Reaction CallbackStep)} {page : Page}
  {start c : Client} {operations : List SocketOperation} {message : ClientMessage}

/-- The message that is due is sent, on the socket of the connection in the slot. -/
structure SendsOn (transport : Transport) (message : ClientMessage) (c : Client) : Prop where
  slot : c.dispatch.host.slot = .current transport
  socket : Table.find? transport.socket c.page.sockets =
    some { generation := transport.generation, listening := true }
  sent : c.dispatch.step? Shell.host = some
    { c.dispatch with
      queue := c.dispatch.queue.tail
      stage := .calling (.send message.frame) none
      host := (c.dispatch.host.record (.sent transport.socket message.frame)).complain .warn
        "WebSocket send failed" c.page.sendThrows }

theorem Life.sendsOn (hnew : Client.new options reactions page = .ok start)
    (hnone : page.sockets = []) (life : Life start operations c)
    (hdue : c.dispatch.due? = some (.send message)) {transport : Transport}
    (hslot : c.dispatch.host.slot = .current transport) : SendsOn transport message c where
  slot := hslot
  socket := (life.sound hnew hnone).current transport hslot
  sent := by
    obtain ⟨hstage, rest, hqueue⟩ := of_due hdue
    have hsend : Shell.host.enter (.send message.frame) c.dispatch.host = _ :=
      congrArg (Prod.mk none) (Shell.send_of_current hslot message.frame)
    simp only [step?, hstage, hqueue, execute, callHost, hsend, List.tail_cons]
    rfl

/-- As long as a host tells of its connections from outside only, each message is sent on the
connection that was opened for it.  For a client, this means that it is sent on the socket of that
connection. -/
theorem send_on_own_connection :
    (∀ (σ : Type) (h : Host σ), h.Slotted → h.Occupying → ∀ (config : Session.Config) (host : σ),
      h.generation host = none → ∀ inputs taken generations d,
      Serial h { session := .new config, host } inputs taken generations d →
      ∀ message, d.due? = some (.send message) →
        OwnConnection h ((Session.new config).attributed inputs) taken generations message d.host) ∧
    ∀ options reactions page start, Client.new options reactions page = .ok start →
      page.sockets = [] → ∀ operations c, Life start operations c →
      ∃ inputs taken generations,
        Serial Shell.host start.dispatch inputs taken generations c.dispatch ∧
        ∀ message, c.dispatch.due? = some (.send message) → ∃ transport,
          SendsOn transport message c ∧
          OwnConnection Shell.host (start.session.attributed inputs) taken generations message
            c.dispatch.host := by
  constructor
  · intro σ h hslotted hoccupying config host hnone inputs taken generations d hserial message hdue
    exact hserial.own_connection hslotted hoccupying (.new config) rfl rfl hnone rfl hdue
  · intro options reactions page start hnew hnone operations c life
    obtain ⟨inputs, taken, generations, hserial⟩ := life.serial
    refine ⟨inputs, taken, generations, hserial, fun message hdue => ?_⟩
    have hown : OwnConnection Shell.host (start.session.attributed inputs) taken generations message
        c.dispatch.host := by
      obtain ⟨url, rfl⟩ := new_dispatch hnew
      exact hserial.own_connection Shell.slotted Shell.occupying (.new _) rfl rfl rfl rfl hdue
    have ⟨attempt, index, generation, _, _, _, hgeneration⟩ := hown
    obtain ⟨transport, hslot, -⟩ := Shell.generation_eq_some.mp hgeneration
    exact ⟨transport, life.sendsOn hnew hnone hdue hslot, hown⟩

def introducing : Client :=
  (lonely.run [.start]).begin (.event 1 .opened)

theorem introducing_sends :
    introducing.dispatch.due? = some (.send .createSession) ∧
    (∃ transport, SendsOn transport .createSession introducing) ∧
    ∃ inputs taken d,
      Serial Rehearsal.host { session := .new {}, host := {} } inputs taken [some 1] d ∧
      d.due? = some (.send .createSession) ∧
      OwnConnection Rehearsal.host ((Session.new {}).attributed inputs) taken [some 1] .createSession
        d.host := by
  obtain ⟨hhosts, hclients⟩ := send_on_own_connection
  have hdue : introducing.dispatch.due? = some (.send .createSession) := by
    rw [introducing, Client.run, List.foldl_cons, List.foldl_nil,
      step_eq_advance .start 8 rfl rfl (by decide) (by decide +kernel)]
    decide +kernel
  refine ⟨hdue, ?_, ?_⟩
  · have hnew : Client.new { url := some "wss://localhost/api/" } [] {} = .ok lonely := rfl
    have hkept : Step.free ∉ [Step.start] := by decide
    obtain ⟨operations, hlife, hrest⟩ := new_run hnew hkept
    obtain ⟨_, _, _, _, hsends⟩ := hclients _ _ _ _ hnew rfl _ _
      (hlife.begins hrest (.event 1 .opened) (by decide))
    obtain ⟨transport, hsent, -⟩ := hsends .createSession hdue
    exact ⟨transport, hsent⟩
  · have hstart : Serial Rehearsal.host { session := .new {}, host := {} } [] [] [] _ := .start
    have hcalled := hstart.call rfl (.submit .start)
    have hwaiting := (hcalled.step_alone rfl rfl).step_alone rfl rfl
    have hopening := (hwaiting.step_alone rfl rfl).step_alone rfl rfl
    have hidle := hopening.step_alone rfl rfl
    have hopened := hidle.call rfl (.event 1 .opened)
    have hown := hhosts _ _ slotted_rehearsal occupying_rehearsal _ _ rfl _ _ _ _ hopened
      .createSession rfl
    exact ⟨_, _, _, hopened, rfl, hown⟩

end Client

end ResumableSession
