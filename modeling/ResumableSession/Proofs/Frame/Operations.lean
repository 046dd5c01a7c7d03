import ResumableSession.Proofs.Frame.Line
import ResumableSession.Proofs.Frame.Search

/-!
Whatever is done to a buffer.

Pushes, questions for a message, and handing over to another buffer may come in any order.  A
buffer then answers as a queue of bytes, and what was wrapped comes out again, message by
message.
-/

namespace ResumableSession.Frame

/-- What can be done to a buffer.  `handOff` has another buffer go on from the unread bytes. -/
inductive Operation where
  | push (fragment : List UInt8)
  | pushText (fragment : String)
  | next
  | handOff
  deriving DecidableEq, Repr

def Operation.pushed : Operation → List UInt8
  | .push fragment => fragment
  | .pushText fragment => Text.Utf8.encode fragment
  | .next | .handOff => []

/-! ## Answers -/

/-- The answers to the questions for a message, and what becomes of the buffer. -/
def Buffer.run (operations : List Operation) (b : Buffer) :
    List (Option (Except Error String)) × Buffer :=
  match operations with
  | [] => ([], b)
  | .push fragment :: rest => (b.push fragment).run rest
  | .pushText fragment :: rest => (b.push (Text.Utf8.encode fragment)).run rest
  | .next :: rest => (b.next.1 :: (b.next.2.run rest).1, (b.next.2.run rest).2)
  | .handOff :: rest => (Buffer.ofResidual b.residual).run rest

def Queue.run (operations : List Operation) (bytes : List UInt8) :
    List (Option (Except Error String)) × List UInt8 :=
  match operations with
  | [] => ([], bytes)
  | .push fragment :: rest => run rest (bytes ++ fragment)
  | .pushText fragment :: rest => run rest (bytes ++ fragment.toUTF8.data.toList)
  | .next :: rest => ((next bytes).1 :: (run rest (next bytes).2).1, (run rest (next bytes).2).2)
  | .handOff :: rest => run rest bytes

namespace Buffer

/-- No position is outside of the storage, and none that is subtracted is the larger one. -/
structure InBounds (b : Buffer) : Prop where
  head_le : b.head ≤ b.scanFrom
  scanFrom_le : b.scanFrom ≤ b.bytes.size
  findEnd?_lt : ∀ stop, b.findEnd? = some stop → b.head ≤ stop ∧ stop < b.bytes.size

theorem Sound.inBounds {b : Buffer} (h : Sound b) : b.InBounds where
  head_le := h.head_le
  scanFrom_le := h.scanFrom_le
  findEnd?_lt _ hstop :=
    ⟨Nat.le_trans h.head_le (findEnd?_lt_size hstop).1, (findEnd?_lt_size hstop).2⟩

theorem run_eq {b : Buffer} (h : Sound b) (operations : List Operation) :
    ((b.run operations).1, (b.run operations).2.residual) = Queue.run operations b.residual ∧
      Sound (b.run operations).2 := by
  induction operations generalizing b with
  | nil => exact ⟨rfl, h⟩
  | cons operation rest ih =>
      cases operation with
      | push fragment =>
          have hrest := ih (h.push fragment)
          rw [residual_push h] at hrest
          exact hrest
      | pushText fragment =>
          have hrest := ih (h.push (Text.Utf8.encode fragment))
          rw [residual_push h] at hrest
          rw [Queue.run, ← Text.Utf8.encode_eq]
          exact hrest
      | next =>
          obtain ⟨hnext, hsound⟩ := next_eq h
          obtain ⟨hrest, hlast⟩ := ih hsound
          refine ⟨?_, hlast⟩
          rw [Queue.run, ← hnext, ← hrest]
          rfl
      | handOff =>
          have hrest := ih (Sound.ofResidual b.residual)
          rw [residual_ofResidual] at hrest
          exact hrest

/-- A buffer answers as the queue of its unread bytes does, whatever was done to it before, and
its positions are always in their bounds. -/
theorem answers_as_queue (residual : List UInt8) (operations : List Operation) :
    let b := (ofResidual residual).run operations
    let queue := Queue.run operations residual
    b.1 = queue.1 ∧ b.2.residual = queue.2 ∧ b.2.length = queue.2.length ∧
      b.2.isEmpty = queue.2.isEmpty ∧ b.2.InBounds ∧ empty = ofResidual [] := by
  intro b queue
  obtain ⟨hrun, hsound⟩ := run_eq (Sound.ofResidual residual) operations
  rw [residual_ofResidual] at hrun
  have hanswers : b.1 = queue.1 := congrArg Prod.fst hrun
  have hresidual : b.2.residual = queue.2 := congrArg Prod.snd hrun
  refine ⟨hanswers, hresidual, ?_, ?_, hsound.inBounds, rfl⟩
  · rw [← hresidual, length_residual]
  · rw [← hresidual, isEmpty_residual]

end Buffer

/-! ## Messages -/

theorem Queue.drain_run (operations : List Operation) (bytes : List UInt8) :
    drain (bytes ++ operations.flatMap Operation.pushed) =
      ((run operations bytes).1.filterMap id ++ (drain (run operations bytes).2).1,
        (drain (run operations bytes).2).2) := by
  induction operations generalizing bytes with
  | nil => rw [List.flatMap_nil, List.append_nil]; rfl
  | cons operation rest ih =>
      rw [List.flatMap_cons, ← List.append_assoc]
      cases operation with
      | push fragment => exact ih (bytes ++ fragment)
      | pushText fragment =>
          rw [run, ← Text.Utf8.encode_eq]
          exact ih (bytes ++ Text.Utf8.encode fragment)
      | next =>
          rw [Operation.pushed, List.append_nil]
          cases hnext : next bytes with
          | mk answer left =>
              have hrun : run (.next :: rest) bytes =
                  (answer :: (run rest left).1, (run rest left).2) := by
                rw [run, hnext]
              cases answer with
              | none =>
                  obtain rfl := eq_of_next_none hnext
                  rw [hrun, ih left]
                  rfl
              | some message =>
                  rw [hrun, drain_some_append hnext, ih left]
                  rfl
      | handOff =>
          rw [Operation.pushed, List.append_nil]
          exact ih bytes

theorem Buffer.drain_run {b : Buffer} (h : Sound b) (operations : List Operation) :
    ((b.run operations).1.filterMap id ++ (b.run operations).2.drain.1,
        (b.run operations).2.drain.2.residual) =
      Queue.drain (b.residual ++ operations.flatMap Operation.pushed) := by
  obtain ⟨hrun, hsound⟩ := run_eq h operations
  obtain ⟨hdrain, -⟩ := drain_eq hsound
  rw [Queue.drain_run, ← hrun, ← hdrain]

theorem Queue.drain_wrapped {messages : List String}
    (hplain : ∀ message ∈ messages, '\n' ∉ message.toList) :
    drain (messages.flatMap fun message => Text.Utf8.encode (wrap message)) =
      (messages.map .ok, []) := by
  induction messages with
  | nil => exact drain_nil
  | cons message rest ih =>
      have hline := newline_not_mem_encode (hplain message List.mem_cons_self)
      have hrest := ih fun other hmem => hplain other (List.mem_cons_of_mem _ hmem)
      rw [List.flatMap_cons, encode_wrap, List.append_assoc, List.singleton_append,
        drain_some (next_line hline _), hrest, ← decodeLine_eq_read, decodeLine_encode]
      rfl

/-- Messages that were wrapped come out again, all of them and in their order, wherever their
bytes are cut, however often messages are asked for in between, and whichever buffer goes on with
the unread bytes. -/
theorem wrapped_messages_return (messages : List String) (operations : List Operation)
    (hplain : ∀ message ∈ messages, '\n' ∉ message.toList)
    (hpushed : operations.flatMap Operation.pushed =
      messages.flatMap fun message => Text.Utf8.encode (wrap message)) :
    let after := Buffer.empty.run operations
    after.1.filterMap id ++ after.2.drain.1 = messages.map .ok ∧ after.2.drain.2.isEmpty := by
  intro after
  obtain ⟨hrun, hsound⟩ := Buffer.run_eq (.ofResidual []) operations
  obtain ⟨hdrain, -⟩ := Buffer.drain_eq hsound
  have hwhole := Queue.drain_run operations []
  rw [List.nil_append, hpushed, Queue.drain_wrapped hplain] at hwhole
  rw [Buffer.residual_ofResidual] at hrun
  rw [← hrun, ← hdrain] at hwhole
  obtain ⟨hmessages, hleft⟩ := Prod.mk.inj hwhole
  refine ⟨hmessages.symm, ?_⟩
  rw [← Buffer.isEmpty_residual]
  exact List.isEmpty_iff.mpr hleft.symm

def interrupted : List Operation :=
  [.push [195], .next, .handOff, .push [169, 10, 10], .pushText "x", .next, .handOff,
    .pushText "y\n"]

theorem interrupted_messages_return :
    (∀ message ∈ ["é", "", "xy"], '\n' ∉ message.toList) ∧
      (Buffer.empty.run interrupted).1.filterMap id ++ (Buffer.empty.run interrupted).2.drain.1 =
        [.ok "é", .ok "", .ok "xy"] ∧
      (Buffer.empty.run interrupted).2.drain.2.isEmpty := by
  have hplain : ∀ message ∈ ["é", "", "xy"], '\n' ∉ message.toList := by decide
  exact ⟨hplain, wrapped_messages_return _ interrupted hplain (by decide +kernel)⟩

end ResumableSession.Frame
