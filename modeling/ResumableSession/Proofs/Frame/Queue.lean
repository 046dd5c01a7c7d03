import ResumableSession.Frame.Buffer
import ResumableSession.Proofs.Text.LongestValid

/-!
Messages in a queue of bytes.

`Queue` says what a reader of messages has to do, with no more state than the bytes that have not
been read.  What is in the queue can be read in any number of goes: `drain_append` is what makes
the way in which bytes arrive irrelevant.
-/

namespace ResumableSession.Frame

namespace Queue

def read (line : List UInt8) : Except Error String :=
  match String.fromUTF8? line.toByteArray with
  | some text => .ok text
  | none => .error (.invalidUtf8 (Text.Utf8.longestValid line))

def next (bytes : List UInt8) : Option (Except Error String) × List UInt8 :=
  match bytes.idxOf? newline with
  | none => (none, bytes)
  | some stop => (some (read (bytes.take stop)), bytes.drop (stop + 1))

variable {bytes line : List UInt8}

theorem next_of_not_mem (h : newline ∉ bytes) : next bytes = (none, bytes) := by
  simp only [next, List.idxOf?_eq_none_iff.mpr h]

theorem next_line (h : newline ∉ line) (rest : List UInt8) :
    next (line ++ newline :: rest) = (some (read line), rest) := by
  have hindex : (line ++ newline :: rest).idxOf? newline = some line.length := by
    have hnone := List.idxOf?_eq_none_iff.mpr h
    rw [List.idxOf?] at hnone ⊢
    simp [List.findIdx?_append, List.findIdx?_cons, hnone]
  simp only [next, hindex, List.take_left, List.drop_append]
  simp

theorem not_mem_of_next_none {rest : List UInt8} (h : next bytes = (none, rest)) :
    newline ∉ bytes := by
  intro hmem
  obtain ⟨line, others, rfl, hline⟩ := List.eq_append_cons_of_mem hmem
  rw [next_line hline] at h
  simp at h

theorem eq_of_next_none {rest : List UInt8} (h : next bytes = (none, rest)) : rest = bytes := by
  have hnext := next_of_not_mem (not_mem_of_next_none h)
  exact (Prod.mk.inj (h.symm.trans hnext)).2

theorem length_next_lt {rest : List UInt8} {message : Except Error String}
    (h : next bytes = (some message, rest)) : rest.length < bytes.length := by
  by_cases hmem : newline ∈ bytes
  · obtain ⟨line, others, rfl, hline⟩ := List.eq_append_cons_of_mem hmem
    rw [next_line hline] at h
    obtain ⟨-, rfl⟩ := Prod.mk.inj h
    simp only [List.length_append, List.length_cons]
    omega
  · rw [next_of_not_mem hmem] at h
    simp at h

/-- All finished messages, and the bytes that are left. -/
def drain (bytes : List UInt8) : List (Except Error String) × List UInt8 :=
  match _ : next bytes with
  | (none, rest) => ([], rest)
  | (some message, rest) => (message :: (drain rest).1, (drain rest).2)
  termination_by bytes.length
  decreasing_by all_goals exact length_next_lt ‹_›

theorem drain_none {rest : List UInt8} (h : next bytes = (none, rest)) :
    drain bytes = ([], rest) := by
  rw [drain]
  split
  · next hnext =>
      obtain ⟨-, rfl⟩ := Prod.mk.inj (hnext.symm.trans h)
      rfl
  · next hnext =>
      simp [h] at hnext

theorem drain_nil : drain [] = ([], []) :=
  drain_none (next_of_not_mem List.not_mem_nil)

theorem drain_some {rest : List UInt8} {message : Except Error String}
    (h : next bytes = (some message, rest)) :
    drain bytes = (message :: (drain rest).1, (drain rest).2) := by
  rw [drain]
  split
  · next hnext =>
      simp [h] at hnext
  · next hnext =>
      obtain ⟨hmessage, rfl⟩ := Prod.mk.inj (hnext.symm.trans h)
      obtain rfl := Option.some.inj hmessage
      rfl

theorem lines_induction {motive : List UInt8 → Prop} (bytes : List UInt8)
    (open_end : ∀ bytes, newline ∉ bytes → motive bytes)
    (line : ∀ line rest, newline ∉ line → motive rest → motive (line ++ newline :: rest)) :
    motive bytes := by
  induction hlength : bytes.length using Nat.strongRecOn generalizing bytes with
  | ind n ih =>
      by_cases hmem : newline ∈ bytes
      · obtain ⟨first, rest, rfl, hfirst⟩ := List.eq_append_cons_of_mem hmem
        refine line first rest hfirst (ih rest.length ?_ rest rfl)
        simp only [List.length_append, List.length_cons] at hlength
        omega
      · exact open_end bytes hmem

theorem newline_not_mem_drain (bytes : List UInt8) : newline ∉ (drain bytes).2 := by
  induction bytes using lines_induction with
  | open_end bytes h =>
      rw [drain_none (next_of_not_mem h)]
      exact h
  | line line rest h ih =>
      rw [drain_some (next_line h rest)]
      exact ih

theorem drain_append (first second : List UInt8) :
    drain (first ++ second) =
      ((drain first).1 ++ (drain ((drain first).2 ++ second)).1,
        (drain ((drain first).2 ++ second)).2) := by
  induction first using lines_induction with
  | open_end first h => rw [drain_none (next_of_not_mem h), List.nil_append]
  | line line rest h ih =>
      rw [List.append_assoc, List.cons_append, drain_some (next_line h _),
        drain_some (next_line h _), ih]
      rfl

theorem drain_some_append {rest : List UInt8} {message : Except Error String}
    (h : next bytes = (some message, rest)) (later : List UInt8) :
    drain (bytes ++ later) = (message :: (drain (rest ++ later)).1, (drain (rest ++ later)).2) := by
  rw [drain_append bytes, drain_append rest, drain_some h]
  rfl

end Queue

theorem decodeLine_eq_read (line : List UInt8) : decodeLine line = Queue.read line := by
  unfold Queue.read String.fromUTF8?
  split
  · next text h =>
      split at h
      · next hvalid =>
          obtain rfl := Option.some.inj h
          have hdecode : Text.Utf8.decode line = .ok (String.fromUTF8 line.toByteArray hvalid) := by
            rw [Text.Utf8.decode_eq_ok, Text.Utf8.encode_eq]
            simp [String.fromUTF8]
          rw [decodeLine, hdecode]
          rfl
      · contradiction
  · next h =>
      split at h
      · contradiction
      · next hvalid =>
          rw [decodeLine, Text.Utf8.decode_of_not_valid hvalid]
          rfl

end ResumableSession.Frame
