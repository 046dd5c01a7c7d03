import ResumableSession.Client.Shell

/-!
What is done to the sockets of a page.

A history tells what was done to sockets, one operation after the other.  It is `Orderly` if no two
sockets are alive at the same time.  This is a property of all moments of a history, and it is kept
by one operation after the other, as long as each one is `Permitted`.
-/

namespace ResumableSession

/-- Whether a socket has handlers, or was not told to close. -/
def Socket.live (socket : Socket) : Bool :=
  socket.listening || !socket.closed

inductive SocketOperation where
  | made (socket generation : Nat)
  /-- All handlers were set, or all were removed. -/
  | handled (socket : Nat) (listening : Bool)
  | closed (socket : Nat)
  deriving DecidableEq, Repr

namespace SocketOperation

def apply (operation : SocketOperation) (sockets : Table Nat Socket) : Table Nat Socket :=
  match operation with
  | .made socket generation => Table.insert socket { generation } sockets
  | .handled socket listening => Table.modify socket (fun entry => { entry with listening }) sockets
  | .closed socket => Table.modify socket (fun entry => { entry with closed := true }) sockets

def perform (operations : List SocketOperation) (sockets : Table Nat Socket) :
    Table Nat Socket :=
  operations.foldl (fun sockets operation => operation.apply sockets) sockets

@[simp] theorem perform_nil (sockets : Table Nat Socket) : perform [] sockets = sockets :=
  rfl

@[simp] theorem perform_cons (operation : SocketOperation) (rest : List SocketOperation)
    (sockets : Table Nat Socket) :
    perform (operation :: rest) sockets = perform rest (operation.apply sockets) :=
  rfl

theorem perform_append (first second : List SocketOperation) (sockets : Table Nat Socket) :
    perform (first ++ second) sockets = perform second (perform first sockets) :=
  List.foldl_append

/-- What the log of a page tells of an operation.  It does not tell of handlers. -/
def logged? (url : String) : SocketOperation → Option Page.Entry
  | .made socket _ => some (.socket socket url)
  | .handled _ _ => none
  | .closed socket => some (.closed socket)

def making? : SocketOperation → Option (Nat × Nat)
  | .made socket generation => some (socket, generation)
  | .handled _ _ | .closed _ => none

def makings (operations : List SocketOperation) : List (Nat × Nat) :=
  operations.filterMap making?

theorem makings_append (first second : List SocketOperation) :
    makings (first ++ second) = makings first ++ makings second :=
  List.filterMap_append

section

variable (operations : List SocketOperation) (id : Nat)

@[simp] theorem makings_made (generation : Nat) :
    makings (operations ++ [.made id generation]) = makings operations ++ [(id, generation)] :=
  makings_append ..

@[simp] theorem makings_handled (listening : Bool) :
    makings (operations ++ [.handled id listening]) = makings operations :=
  (makings_append ..).trans (List.append_nil _)

@[simp] theorem makings_closed : makings (operations ++ [.closed id]) = makings operations :=
  (makings_append ..).trans (List.append_nil _)

end

theorem live_of_apply {operation : SocketOperation} {sockets : Table Nat Socket} {id : Nat}
    {socket : Socket} (hfind : Table.find? id (operation.apply sockets) = some socket)
    (hlive : socket.live) :
    (∃ before, Table.find? id sockets = some before ∧ before.live) ∨
      operation = .handled id true ∨ ∃ generation, operation = .made id generation := by
  have hmodify {other : Nat} {change : Socket → Socket}
      (hfind : Table.find? id (Table.modify other change sockets) = some socket) :
      Table.find? id sockets = some socket ∨
        id = other ∧ ∃ before, Table.find? id sockets = some before ∧ change before = socket := by
    by_cases hsame : id = other
    · subst hsame
      rw [Table.find?_modify_self] at hfind
      exact .inr ⟨rfl, Option.map_eq_some_iff.mp hfind⟩
    · rw [Table.find?_modify_ne hsame] at hfind
      exact .inl hfind
  cases operation with
  | made other generation =>
      by_cases hsame : id = other
      · exact .inr (.inr ⟨generation, by rw [hsame]⟩)
      · rw [apply, Table.find?_insert_ne hsame] at hfind
        exact .inl ⟨socket, hfind, hlive⟩
  | handled other listening =>
      rcases hmodify hfind with hbefore | ⟨rfl, before, hbefore, rfl⟩
      · exact .inl ⟨socket, hbefore, hlive⟩
      · cases listening with
        | true => exact .inr (.inl rfl)
        | false =>
            have hopen : before.closed = false := by simpa [Socket.live] using hlive
            exact .inl ⟨before, hbefore, by simp [Socket.live, hopen]⟩
  | closed other =>
      rcases hmodify hfind with hbefore | ⟨rfl, before, hbefore, rfl⟩
      · exact .inl ⟨socket, hbefore, hlive⟩
      · have hlistening : before.listening := by simpa [Socket.live] using hlive
        exact .inl ⟨before, hbefore, by simp [Socket.live, hlistening]⟩

/-! ## Orderly histories -/

/-- No socket of the table has handlers, and all of them were told to close. -/
def Quiet (sockets : Table Nat Socket) : Prop :=
  ∀ id socket, Table.find? id sockets = some socket → socket.live = false

/-- The history of a page on which sockets come one after the other. -/
structure Orderly (operations : List SocketOperation) : Prop where
  /-- At all times, only the socket that was made last can be alive. -/
  newest : ∀ earlier, earlier <+: operations → ∀ id socket,
    Table.find? id (perform earlier []) = some socket → socket.live →
      (makings earlier).getLast?.map Prod.fst = some id
  /-- When a socket is made, it is a new one, and all that there were before are quiet. -/
  alone : ∀ earlier id generation, earlier ++ [.made id generation] <+: operations →
    Table.find? id (perform earlier []) = none ∧ Quiet (perform earlier [])
  increasing : ((makings operations).map Prod.snd).Pairwise (· < ·)

theorem orderly_nil : Orderly [] where
  newest earlier hprefix id socket hfind _ := by
    obtain rfl := List.prefix_nil.mp hprefix
    contradiction
  alone earlier id generation hprefix := by simp at hprefix
  increasing := .nil

def Permitted (operations : List SocketOperation) : SocketOperation → Prop
  | .made id generation =>
      Table.find? id (perform operations []) = none ∧ Quiet (perform operations []) ∧
        ∀ entry ∈ makings operations, entry.2 < generation
  | .handled id true => (makings operations).getLast?.map Prod.fst = some id
  | .handled _ false | .closed _ => True

theorem Orderly.concat {operations : List SocketOperation} (h : Orderly operations)
    (operation : SocketOperation) (permitted : Permitted operations operation) :
    Orderly (operations ++ [operation]) where
  newest earlier hprefix id socket hfind hlive := by
    rcases List.prefix_concat_iff.mp hprefix with rfl | hbefore
    · rw [perform_append] at hfind
      rcases live_of_apply hfind hlive with
        ⟨before, hbefore, halive⟩ | rfl | ⟨generation, rfl⟩
      · have hlast := h.newest operations (List.prefix_refl _) id before hbefore halive
        cases operation with
        | made other generation =>
            have hquiet := permitted.2.1 id before hbefore
            rw [hquiet] at halive
            contradiction
        | handled other listening | closed other => simpa using hlast
      · rw [makings_handled]
        exact permitted
      · simp
    · exact h.newest earlier hbefore id socket hfind hlive
  alone earlier id generation hprefix := by
    rcases List.prefix_concat_iff.mp hprefix with hwhole | hbefore
    · obtain ⟨rfl, hoperation⟩ := List.append_inj' hwhole rfl
      obtain rfl := (List.cons.inj hoperation).1
      exact ⟨permitted.1, permitted.2.1⟩
    · exact h.alone earlier id generation hbefore
  increasing := by
    cases operation with
    | made id generation =>
        rw [makings_made, List.map_append, List.pairwise_append]
        refine ⟨h.increasing, List.pairwise_singleton .., List.forall_mem_map.mpr ?_⟩
        exact fun entry hentry => by simpa using permitted.2.2 entry hentry
    | handled id listening | closed id => simpa using h.increasing

theorem Orderly.append_calm {operations calm : List SocketOperation} (h : Orderly operations)
    (hcalm : ∀ operation ∈ calm, ∃ id, operation = .handled id false ∨ operation = .closed id) :
    Orderly (operations ++ calm) := by
  induction calm generalizing operations with
  | nil => rwa [List.append_nil]
  | cons operation rest ih =>
      obtain ⟨⟨id, hoperation⟩, hrest⟩ := List.forall_mem_cons.mp hcalm
      have hfirst : Orderly (operations ++ [operation]) := by
        rcases hoperation with rfl | rfl <;> exact h.concat _ trivial
      rw [List.append_cons]
      exact ih hfirst hrest

end SocketOperation

end ResumableSession
