import ResumableSession.Text.Utf8

/-!
Messages on a byte stream.

A message is written as its text followed by one newline.  The reader keeps the bytes that came
in and hands out the finished messages.  It searches every byte for a newline once only, and it
moves the unread bytes to the front only when they are at most half of the storage.
-/

namespace ResumableSession.Frame

/-- The byte that ends a message.  It occurs inside no other character of UTF-8. -/
def newline : UInt8 := 10

/-- The written form of a message that holds no newline. -/
def wrap (message : String) : String :=
  message.push '\n'

inductive WrapError where
  | rawNewline
  deriving DecidableEq, Repr

def WrapError.message : WrapError → String
  | .rawNewline => "Framed message must not contain a raw newline"

/-- The written form of a message, refused for one that would be read back as two. -/
def wrapChecked (message : String) : Except WrapError String :=
  if '\n' ∈ message.toList then .error .rawNewline else .ok (wrap message)

inductive Error where
  | invalidUtf8 (validUpTo : Nat)
  deriving DecidableEq, Repr

def Error.message : Error → String
  | .invalidUtf8 validUpTo => s!"Frame is not valid UTF-8 (valid up to byte {validUpTo})"

def decodeLine (line : List UInt8) : Except Error String :=
  (Text.Utf8.decode line).mapError .invalidUtf8

/--
The bytes before `head` have been handed out.  The unread bytes before `scanFrom` are known to
hold no newline.
-/
structure Buffer where
  bytes : Array UInt8 := #[]
  head : Nat := 0
  scanFrom : Nat := 0
  deriving DecidableEq, Repr

namespace Buffer

def empty : Buffer := {}

/-- A buffer that goes on from the unread bytes of another one. -/
def ofResidual (residual : List UInt8) : Buffer :=
  { bytes := residual.toArray }

def residual (b : Buffer) : List UInt8 :=
  (b.bytes.extract b.head b.bytes.size).toList

def length (b : Buffer) : Nat :=
  b.bytes.size - b.head

def isEmpty (b : Buffer) : Bool :=
  b.length == 0

/-- Drops the bytes that were handed out, once they are half of the storage or more. -/
def compact (b : Buffer) : Buffer :=
  if b.head = 0 ∨ b.head * 2 < b.bytes.size then b
  else { bytes := b.bytes.extract b.head b.bytes.size, head := 0, scanFrom := b.scanFrom - b.head }

def push (b : Buffer) (fragment : List UInt8) : Buffer :=
  if fragment.isEmpty then b
  else { b.compact with bytes := b.compact.bytes ++ fragment }

def findEnd? (b : Buffer) : Option Nat :=
  ((b.bytes.extract b.scanFrom b.bytes.size).findIdx? (· == newline)).map (b.scanFrom + ·)

def skipTo (b : Buffer) (stop : Nat) : Buffer :=
  if stop + 1 = b.bytes.size then empty
  else { b with head := stop + 1, scanFrom := stop + 1 }

/-- Takes the next finished message, if there is one.  An unreadable message is taken as well. -/
def next (b : Buffer) : Option (Except Error String) × Buffer :=
  match b.findEnd? with
  | none => (none, { b with scanFrom := b.bytes.size })
  | some stop => (some (decodeLine (b.bytes.extract b.head stop).toList), b.skipTo stop)

def unscanned (b : Buffer) : Nat :=
  b.bytes.size - b.scanFrom

theorem findEnd?_lt_size {b : Buffer} {stop : Nat} (h : b.findEnd? = some stop) :
    b.scanFrom ≤ stop ∧ stop < b.bytes.size := by
  simp only [findEnd?, Option.map_eq_some_iff] at h
  obtain ⟨offset, hoffset, rfl⟩ := h
  obtain ⟨this, -⟩ := Array.findIdx?_eq_some_iff_getElem.mp hoffset
  simp only [Array.size_extract] at this
  omega

theorem unscanned_next_lt {b rest : Buffer} {message : Except Error String}
    (h : b.next = (some message, rest)) : rest.unscanned < b.unscanned := by
  unfold next at h
  split at h
  · simp at h
  · next stop hstop =>
      obtain ⟨hle, hlt⟩ := findEnd?_lt_size hstop
      obtain ⟨-, rfl⟩ := Prod.mk.inj h
      simp only [skipTo, unscanned]
      split <;> simp only [empty, List.size_toArray, List.length_nil] <;> omega

def drain (b : Buffer) : List (Except Error String) × Buffer :=
  match _ : b.next with
  | (none, rest) => ([], rest)
  | (some message, rest) =>
      let (messages, rest) := rest.drain
      (message :: messages, rest)
  termination_by b.unscanned
  decreasing_by exact unscanned_next_lt ‹_›

end Buffer

end ResumableSession.Frame
