/-!
Reactions that were laid down beforehand.

A reaction waits for its cue, and it reacts once.  The first one with the right cue is taken.
-/

namespace ResumableSession

/-- What to do when the cue is given, and what to throw in the end. -/
structure Reaction (α : Type) where
  cue : String
  steps : List α
  throws : Option String := none
  deriving DecidableEq, Repr

namespace Reaction

variable {α : Type}

def stepsOf (reaction : Option (Reaction α)) : List α :=
  (reaction.map (·.steps)).getD []

def take (cue : String) : List (Reaction α) → Option (Reaction α) × List (Reaction α)
  | [] => (none, [])
  | reaction :: rest =>
      if reaction.cue = cue then (some reaction, rest)
      else ((take cue rest).1, reaction :: (take cue rest).2)

def stepCount : List (Reaction α) → Nat
  | [] => 0
  | reaction :: rest => reaction.steps.length + stepCount rest

theorem stepCount_take (cue : String) (reactions : List (Reaction α)) :
    (stepsOf (take cue reactions).1).length + stepCount (take cue reactions).2 =
      stepCount reactions := by
  induction reactions with
  | nil => rfl
  | cons reaction rest ih =>
      unfold take
      split
      · rfl
      · simp only [stepCount]
        omega

end Reaction

end ResumableSession
