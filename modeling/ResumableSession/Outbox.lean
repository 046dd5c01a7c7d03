import ResumableSession.Message.Basic

/-!
Messages that are kept until the other side has dealt with them.

The entries are in the order of their numbers.  The other side tells from time to time the first
number that it has not dealt with, and all entries below it are let go.
-/

namespace ResumableSession

class Sequenced (α : Type) where
  seq : α → Nat

export Sequenced (seq)

instance : Sequenced Request := ⟨Request.id⟩

instance : Sequenced Response := ⟨Response.id⟩

structure Outbox (α : Type) where
  entries : List α := []
  deriving DecidableEq, Repr

namespace Outbox

variable {α : Type}

def empty : Outbox α := {}

/-- Adds an entry at the end.  Its number has to be above all numbers in the outbox. -/
def push (o : Outbox α) (entry : α) : Outbox α :=
  ⟨o.entries ++ [entry]⟩

def front? (o : Outbox α) : Option α :=
  o.entries.head?

def length (o : Outbox α) : Nat :=
  o.entries.length

def isEmpty (o : Outbox α) : Bool :=
  o.entries.isEmpty

variable [Sequenced α]

def dropBelow (o : Outbox α) (threshold : Nat) : Outbox α :=
  ⟨o.entries.dropWhile fun entry => seq entry < threshold⟩

def countBelow (o : Outbox α) (threshold : Nat) : Nat :=
  (o.entries.takeWhile fun entry => seq entry < threshold).length

def entriesFrom (o : Outbox α) (start : Nat) : List α :=
  o.entries.dropWhile fun entry => seq entry < start

end Outbox

end ResumableSession
