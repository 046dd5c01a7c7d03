import ResumableSession.Json.SyntaxError

/-!
The answers of readers.

A reader looks at a list of characters and answers with a value and with the characters after
it.  There are always fewer of these, so reading again and again comes to an end.
-/

namespace ResumableSession.Json

structure Parsed (α : Type) (text : List Char) where
  value : α
  rest : List Char
  shorter : rest.length < text.length

abbrev Reading (α : Type) (text : List Char) := Except Fault (Parsed α text)

namespace Parsed

variable {α β : Type} {text other : List Char}

def map (f : α → β) (p : Parsed α text) : Parsed β text :=
  ⟨f p.value, p.rest, p.shorter⟩

def within (p : Parsed α other) (h : other.length ≤ text.length) : Parsed α text :=
  ⟨p.value, p.rest, Nat.lt_of_lt_of_le p.shorter h⟩

def behind (c : Char) (p : Parsed α text) : Parsed α (c :: text) :=
  p.within (Nat.le_succ _)

end Parsed

def isBlank (c : Char) : Bool :=
  c == ' ' || c == '\n' || c == '\t' || c == '\r'

def skipBlanks (text : List Char) : List Char :=
  text.dropWhile isBlank

theorem length_skipBlanks_le (text : List Char) : (skipBlanks text).length ≤ text.length :=
  (List.dropWhile_sublist _).length_le

theorem length_lt_of_skipBlanks {text rest : List Char} {c : Char}
    (h : skipBlanks text = c :: rest) : rest.length < text.length := by
  have := length_skipBlanks_le text
  rw [h, List.length_cons] at this
  exact this

end ResumableSession.Json
