import ResumableSession.Proofs.Client.Life

/-!
One socket at a time.

A client makes a new socket for each of its connections.  Before that, the earlier ones have lost
their handlers and have been told to close.  `Sound` says what the slot of the shell has to do with
the sockets of the page; every call to the shell keeps it, and so it holds at all moments of the
life of a client.
-/

namespace ResumableSession

open SocketOperation

namespace SocketOperation

variable (transport : Transport) (id : Nat) (sockets : Table Nat Socket)

theorem find?_shutdown :
    Table.find? id (perform transport.shutdown sockets) =
      if id = transport.socket then
        (Table.find? id sockets).map fun socket =>
          { socket with listening := false, closed := true }
      else Table.find? id sockets := by
  by_cases hsame : id = transport.socket
  · subst hsame
    simp [Transport.shutdown, apply, Table.find?_modify_self, Function.comp_def]
  · simp [Transport.shutdown, apply, Table.find?_modify_ne hsame, hsame]

theorem find?_opening :
    Table.find? id (perform transport.opening sockets) =
      if id = transport.socket then some { generation := transport.generation, listening := true }
      else Table.find? id sockets := by
  by_cases hsame : id = transport.socket
  · subst hsame
    simp [Transport.opening, apply, Table.find?_modify_self, Table.find?_insert_self]
  · simp [Transport.opening, apply, Table.find?_modify_ne hsame, Table.find?_insert_ne hsame, hsame]

theorem length_shutdown : (perform transport.shutdown sockets).length = sockets.length :=
  length_release (.current transport) sockets

theorem length_opening (hfresh : Table.find? transport.socket sockets = none) :
    (perform transport.opening sockets).length = sockets.length + 1 := by
  simp [Transport.opening, apply, Table.length_modify, Table.length_insert hfresh]

theorem makings_shutdown (operations : List SocketOperation) :
    makings (operations ++ transport.shutdown) = makings operations :=
  (makings_append ..).trans (List.append_nil _)

theorem makings_opening (operations : List SocketOperation) :
    makings (operations ++ transport.opening) =
      makings operations ++ [(transport.socket, transport.generation)] :=
  makings_append ..

end SocketOperation

namespace Fixtures

/-- The sockets are what their history has made of them, and only the present connection has a
socket that is alive. -/
structure Sound (operations : List SocketOperation) (f : Fixtures) : Prop where
  orderly : Orderly operations
  sockets : f.sockets = perform operations []
  numbered : ∀ id socket, Table.find? id f.sockets = some socket → id ≤ f.sockets.length
  older : ∀ making ∈ makings operations, making.2 ≤ f.generation
  alive : ∀ id socket, Table.find? id f.sockets = some socket → socket.live →
    ∃ transport, f.slot = .current transport ∧ transport.socket = id
  current : ∀ transport, f.slot = .current transport →
    Table.find? transport.socket f.sockets =
      some { generation := transport.generation, listening := true }

variable {operations : List SocketOperation} {f g : Fixtures}

theorem Sound.of_same (h : Sound operations f) (hslot : g.slot = f.slot)
    (hsockets : g.sockets = f.sockets) (hgeneration : f.generation ≤ g.generation) :
    Sound operations g where
  orderly := h.orderly
  sockets := hsockets.trans h.sockets
  numbered := by rw [hsockets]; exact h.numbered
  older making hmaking := Nat.le_trans (h.older making hmaking) hgeneration
  alive := by rw [hsockets, hslot]; exact h.alive
  current := by rw [hsockets, hslot]; exact h.current

theorem Sound.shut (h : Sound operations f) {transport : Transport} {slot : Slot}
    (hslot : f.slot = .current transport ∨ f.slot = .retired transport)
    (hnone : ∀ other, slot ≠ .current other) :
    Sound (operations ++ transport.shutdown) { f.operate transport.shutdown with slot } where
  orderly := h.orderly.append_calm (by simp [Transport.shutdown])
  sockets := by
    rw [perform_append, ← h.sockets]
    rfl
  numbered id socket hfind := by
    rw [operate, find?_shutdown] at hfind
    rw [operate, length_shutdown]
    split at hfind
    · obtain ⟨before, hbefore, -⟩ := Option.map_eq_some_iff.mp hfind
      exact h.numbered id before hbefore
    · exact h.numbered id socket hfind
  older := by
    rw [makings_shutdown]
    exact h.older
  alive id socket hfind hlive := by
    rw [operate, find?_shutdown] at hfind
    split at hfind
    · obtain ⟨before, -, rfl⟩ := Option.map_eq_some_iff.mp hfind
      contradiction
    · next hother =>
        obtain ⟨present, hpresent, rfl⟩ := h.alive id socket hfind hlive
        rcases hslot with hslot | hslot
        · obtain rfl := Slot.current.inj (hpresent.symm.trans hslot)
          contradiction
        · rw [hslot] at hpresent
          contradiction
  current other hcurrent := absurd hcurrent (hnone other)

theorem Sound.release (h : Sound operations f) :
    Sound (operations ++ f.slot.release) { f.operate f.slot.release with slot := .vacant } := by
  cases hslot : f.slot with
  | vacant =>
      have hsame : { f.operate [] with slot := .vacant } = f := by
        rw [operate_nil, ← hslot]
      rw [Slot.release, List.append_nil, hsame]
      exact h
  | current transport => exact h.shut (.inl hslot) (by simp)
  | retired transport => exact h.shut (.inr hslot) (by simp)

theorem Sound.fresh (h : Sound operations f) : Table.find? f.next.socket f.sockets = none := by
  by_contra hpresent
  obtain ⟨socket, hfind⟩ := Option.ne_none_iff_exists'.mp hpresent
  exact absurd (h.numbered _ _ hfind) (Nat.not_succ_le_self _)

theorem Sound.quiet (h : Sound operations f) (hnone : ∀ transport, f.slot ≠ .current transport) :
    Quiet f.sockets := by
  intro id socket hfind
  by_contra hlive
  obtain ⟨present, hpresent, -⟩ := h.alive id socket hfind (by simpa using hlive)
  exact hnone present hpresent

theorem Sound.make (h : Sound operations f) (hnone : ∀ transport, f.slot ≠ .current transport) :
    Sound (operations ++ f.next.opening) { f.operate f.next.opening with
      slot := .current f.next
      generation := f.generation + 1 } where
  orderly := by
    have hfresh := h.fresh
    have hquiet := h.quiet hnone
    rw [h.sockets] at hfresh hquiet
    have hmade := h.orderly.concat (.made f.next.socket f.next.generation)
      ⟨hfresh, hquiet, fun making hmaking => Nat.lt_succ_of_le (h.older making hmaking)⟩
    have hhandled := hmade.concat (.handled f.next.socket true) (by simp [Permitted])
    rwa [List.append_assoc] at hhandled
  sockets := by
    rw [perform_append, ← h.sockets]
    rfl
  numbered id socket hfind := by
    rw [operate, find?_opening] at hfind
    rw [operate, length_opening f.next _ h.fresh]
    split at hfind
    · next hsame => exact Nat.le_of_eq hsame
    · exact Nat.le_succ_of_le (h.numbered id socket hfind)
  older making hmaking := by
    rw [makings_opening, List.mem_append, List.mem_singleton] at hmaking
    rcases hmaking with hbefore | rfl
    · exact Nat.le_succ_of_le (h.older making hbefore)
    · exact Nat.le_refl _
  alive id socket hfind hlive := by
    rw [operate, find?_opening] at hfind
    split at hfind
    · next hsame => exact ⟨f.next, rfl, hsame.symm⟩
    · rw [h.quiet hnone id socket hfind] at hlive
      contradiction
  current transport hcurrent := by
    obtain rfl := Slot.current.inj hcurrent
    rw [operate, find?_opening, if_pos rfl]

theorem Sound.enter (h : Sound operations f) (call : HostCall) :
    Sound (operations ++ f.operations call) (f.enter call) := by
  cases call with
  | openTransport =>
      have hreleased := h.release
      cases hthrows : f.conditions.socketThrows with
      | some thrown =>
          simp only [Fixtures.operations, Fixtures.enter, hthrows]
          exact hreleased.of_same rfl rfl (Nat.le_succ _)
      | none =>
          have hnext : { f.operate f.slot.release with slot := .vacant }.next = f.next :=
            congrArg (fun length => Transport.mk (length + 1) (f.generation + 1))
              (length_release ..)
          have hmade := hreleased.make (by simp)
          rw [hnext, List.append_assoc] at hmade
          simp only [Fixtures.operations, Fixtures.enter, hthrows, operate_append]
          exact hmade
  | closeTransport =>
      cases hslot : f.slot with
      | current transport =>
          simp only [Fixtures.operations, Fixtures.enter, hslot]
          exact h.shut (.inl hslot) (by simp [Slot.retire])
      | vacant | retired transport =>
          simp only [Fixtures.operations, Fixtures.enter, hslot, operate_nil, List.append_nil]
          exact h.of_same (by rw [hslot]; rfl) rfl (Nat.le_refl _)
  | scheduleReconnect delay =>
      simp only [Fixtures.operations, Fixtures.enter, List.append_nil]
      split
      · exact h.of_same rfl rfl (Nat.le_refl _)
      · exact h
  | send text | stateChanged status | deliver payload =>
      simp only [Fixtures.operations, Fixtures.enter, List.append_nil]
      exact h

theorem Sound.prepare (h : Sound operations f) (action : Client.Step) :
    Sound operations (f.prepare action) := by
  cases action <;> exact h.of_same rfl rfl (Nat.le_refl _)

theorem Sound.nil (hslot : f.slot = .vacant) (hsockets : f.sockets = []) : Sound [] f where
  orderly := orderly_nil
  sockets := hsockets
  numbered id socket hfind := by simp [hsockets, Table.find?] at hfind
  older := nofun
  alive id socket hfind := by simp [hsockets, Table.find?] at hfind
  current transport hcurrent := by simp [hslot] at hcurrent

/-- A socket is alive just when there is a connection. -/
theorem Sound.alive_iff (h : Sound operations f) :
    (∃ id socket, Table.find? id f.sockets = some socket ∧ socket.live) ↔
      ∃ transport, f.slot = .current transport := by
  constructor
  · rintro ⟨id, socket, hfind, hlive⟩
    obtain ⟨transport, hslot, -⟩ := h.alive id socket hfind hlive
    exact ⟨transport, hslot⟩
  · rintro ⟨transport, hslot⟩
    exact ⟨_, _, h.current transport hslot, rfl⟩

theorem log_enter (call : HostCall) (f : Fixtures) :
    (f.enter call).url = f.url ∧
      (f.enter call).log = f.log ++ (f.operations call).filterMap (logged? f.url) := by
  cases call with
  | openTransport | closeTransport => exact ⟨rfl, rfl⟩
  | scheduleReconnect delay =>
      simp only [Fixtures.enter, Fixtures.operations]
      split <;> simp
  | send text | stateChanged status | deliver payload => simp [Fixtures.enter, Fixtures.operations]

end Fixtures

namespace Client

variable {options : Options} {reactions : List (Reaction CallbackStep)} {page : Page}
  {start c : Client} {operations : List SocketOperation}

theorem Life.sound (hnew : Client.new options reactions page = .ok start)
    (hnone : page.sockets = []) (life : Life start operations c) :
    Fixtures.Sound operations c.fixtures := by
  obtain ⟨url, rfl⟩ := new_dispatch hnew
  refine life.fixtures_keep Fixtures.Sound (.nil rfl ?_) (fun _ _ action h => h.prepare action)
    fun _ _ call h => h.enter call
  exact hnone

theorem Life.log (life : Life start operations c) :
    c.fixtures.url = start.fixtures.url ∧
      c.fixtures.log =
        start.fixtures.log ++ operations.filterMap (logged? start.fixtures.url) := by
  refine life.fixtures_keep (fun operations f => f.url = start.fixtures.url ∧
    f.log = start.fixtures.log ++ operations.filterMap (logged? start.fixtures.url)) ?_ ?_ ?_
  · simp
  · intro operations f action h
    cases action <;> exact h
  · rintro operations f call ⟨hurl, hlog⟩
    obtain ⟨hsame, hmore⟩ := f.log_enter call
    rw [hsame, hmore, hurl, hlog, List.filterMap_append, List.append_assoc]
    exact ⟨rfl, rfl⟩

theorem Life.alive_iff_live (hnew : Client.new options reactions page = .ok start)
    (hnone : page.sockets = []) (life : Life start operations c)
    (hidle : c.dispatch.stage = .idle) :
    (∃ id socket, Table.find? id c.page.sockets = some socket ∧ socket.live) ↔
      c.session.status.live :=
  (life.sound hnew hnone).alive_iff.trans (life.current_iff_live hnew hidle)

/-- What is true of the sockets of a page that a client has for itself. -/
structure OneSocket (page : Page) (operations : List SocketOperation) (c : Client) : Prop where
  orderly : Orderly operations
  sockets : c.page.sockets = SocketOperation.perform operations []
  log : c.page.log.filter Page.Entry.ofSocket =
    page.log.filter Page.Entry.ofSocket ++ operations.filterMap (logged? c.dispatch.host.url)
  atRest : c.dispatch.stage = .idle →
    ((∃ id socket, Table.find? id c.page.sockets = some socket ∧ socket.live) ↔
      c.session.status.live)
  givenUp : Quiet (c.step .free).2.page.sockets

/-- At all times, at most one socket of a client is alive, and it is the one that was made last.  At
rest, there is one just when the session has a connection.  Nothing is left alive when the client is
given up. -/
theorem one_live_socket {options : Options} {reactions : List (Reaction CallbackStep)}
    {page : Page} {start : Client} (hnew : Client.new options reactions page = .ok start)
    (hnone : page.sockets = []) :
    (∀ actions, .free ∉ actions → ∃ operations,
      Life start operations (start.run actions) ∧ (start.run actions).dispatch.stage = .idle) ∧
    ∀ operations c, Life start operations c → OneSocket page operations c := by
  constructor
  · exact fun actions hkept => new_run hnew hkept
  · intro operations c life
    have hsound := life.sound hnew hnone
    obtain ⟨hurl, hlog⟩ := life.log
    refine ⟨hsound.orderly, hsound.sockets, ?_, life.alive_iff_live hnew hnone, ?_⟩
    · obtain ⟨url, rfl⟩ := new_dispatch hnew
      rw [← hurl] at hlog
      exact hlog
    · have hkept : c.freed = false := by
        obtain ⟨url, rfl⟩ := new_dispatch hnew
        exact life.freed
      have hfree : (c.step .free).2.page.sockets = c.dispatch.host.release.fixtures.sockets := by
        simp only [step, free, hkept]
        rfl
      rw [hfree, Shell.fixtures_release]
      exact hsound.release.quiet (by simp)

def lonely : Client :=
  { dispatch := { session := .new {}, host := { page := {}, url := "wss://localhost/api/" } } }

theorem lonely_one_socket :
    Client.new { url := some "wss://localhost/api/" } [] {} = .ok lonely ∧
    ∃ operations, OneSocket {} operations (lonely.run [.start, .event 1 .opened]) ∧
      (lonely.run [.start, .event 1 .opened]).session.status = .connected ∧
      ∃ id socket, Table.find? id (lonely.run [.start, .event 1 .opened]).page.sockets =
        some socket ∧ socket.live := by
  have hnew : Client.new { url := some "wss://localhost/api/" } [] {} = .ok lonely := rfl
  obtain ⟨hruns, hmoments⟩ := one_live_socket hnew rfl
  obtain ⟨operations, hlife, hrest⟩ := hruns [.start, .event 1 .opened] (by decide)
  have hone := hmoments operations _ hlife
  have hconnected : (lonely.run [.start, .event 1 .opened]).session.status = .connected := by
    rw [Client.run, List.foldl_cons, List.foldl_cons, List.foldl_nil,
      step_eq_advance .start 8 rfl rfl (by decide) (by decide +kernel),
      step_eq_advance (.event 1 .opened) 8 (by decide +kernel) (by decide +kernel) (by decide)
        (by decide +kernel)]
    decide +kernel
  refine ⟨hnew, operations, hone, hconnected, (hone.atRest hrest).mpr ?_⟩
  rw [hconnected]
  rfl

end Client

end ResumableSession
