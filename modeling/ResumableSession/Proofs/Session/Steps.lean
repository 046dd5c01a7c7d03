import ResumableSession.Session.Step

/-!
A session that is given several inputs, one after the other.
-/

namespace ResumableSession

def Session.steps (inputs : List Input) (s : Session) : Session × List Effect :=
  match inputs with
  | [] => (s, [])
  | input :: rest =>
      let (after, effects) := s.step input
      let (final, more) := after.steps rest
      (final, effects ++ more)

theorem Session.steps_append (first second : List Input) (s : Session) :
    s.steps (first ++ second) =
      (((s.steps first).1.steps second).1,
        (s.steps first).2 ++ ((s.steps first).1.steps second).2) := by
  induction first generalizing s with
  | nil => simp [steps]
  | cons input rest ih => simp [steps, ih]

end ResumableSession
