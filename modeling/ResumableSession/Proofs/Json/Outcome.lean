import ResumableSession.Json.Parsed

/-!
What a reading comes to, without the proof that something was read.
-/

namespace ResumableSession.Json

variable {α β : Type} {text rest : List Char} {value : α}

def outcome (reading : Reading α text) : Except Fault (α × List Char) :=
  reading.map fun parsed => (parsed.value, parsed.rest)

def prepend (value : α) (later : Except Fault (List α × List Char)) :
    Except Fault (List α × List Char) :=
  later.map fun result => (value :: result.1, result.2)

theorem outcome_eq_ok {reading : Reading α text} (h : outcome reading = .ok (value, rest)) :
    ∃ shorter, reading = .ok ⟨value, rest, shorter⟩ := by
  cases reading with
  | error fault => contradiction
  | ok parsed =>
      obtain ⟨rfl, rfl⟩ := Prod.mk.inj (Except.ok.inj h)
      exact ⟨parsed.shorter, rfl⟩

theorem bind_eq_ok {ε : Type} {result : Except ε α} {next : α → Except ε β} {last : β}
    (h : result.bind next = .ok last) : ∃ value, result = .ok value ∧ next value = .ok last := by
  cases result with
  | error fault => contradiction
  | ok value => exact ⟨value, rfl, h⟩

theorem map_eq_ok {ε : Type} {result : Except ε α} {f : α → β} {last : β}
    (h : result.map f = .ok last) : ∃ value, result = .ok value ∧ f value = last := by
  cases result with
  | error fault => contradiction
  | ok value => exact ⟨value, rfl, Except.ok.inj h⟩

theorem prepend_eq_ok {later : Except Fault (List α × List Char)} {values : List α}
    (h : prepend value later = .ok (values, rest)) :
    ∃ more, values = value :: more ∧ later = .ok (more, rest) := by
  cases later with
  | error fault => contradiction
  | ok result =>
      obtain ⟨rfl, rfl⟩ := Prod.mk.inj (Except.ok.inj h)
      exact ⟨_, rfl, rfl⟩

end ResumableSession.Json
