import ResumableSession.Text.Utf8

/-!
What is wrong with a text that is not JSON, and where.

A reader knows only what it has left to read.  `SyntaxError.locate` turns that into a line and a
column, both counted in bytes: the column is the number of bytes between the last newline and
the place of the fault.
-/

namespace ResumableSession.Json

inductive Reason where
  | unfinishedValue
  | unfinishedList
  | unfinishedObject
  | unfinishedString
  | expectedValue
  | expectedIdent
  | expectedColon
  | expectedListCommaOrEnd
  | expectedObjectCommaOrEnd
  | keyNotString
  | trailingComma
  | trailingCharacters
  | controlCharacter
  | invalidEscape
  | loneSurrogate
  | unexpectedEndOfHexEscape
  | invalidNumber
  | numberOutOfRange
  | nestedTooDeep
  deriving DecidableEq, Repr

def Reason.message : Reason → String
  | .unfinishedValue => "EOF while parsing a value"
  | .unfinishedList => "EOF while parsing a list"
  | .unfinishedObject => "EOF while parsing an object"
  | .unfinishedString => "EOF while parsing a string"
  | .expectedValue => "expected value"
  | .expectedIdent => "expected ident"
  | .expectedColon => "expected `:`"
  | .expectedListCommaOrEnd => "expected `,` or `]`"
  | .expectedObjectCommaOrEnd => "expected `,` or `\x7d`"
  | .keyNotString => "key must be a string"
  | .trailingComma => "trailing comma"
  | .trailingCharacters => "trailing characters"
  | .controlCharacter => "control character (\\u0000-\\u001F) found while parsing a string"
  | .invalidEscape => "invalid escape"
  | .loneSurrogate => "lone leading surrogate in hex escape"
  | .unexpectedEndOfHexEscape => "unexpected end of hex escape"
  | .invalidNumber => "invalid number"
  | .numberOutOfRange => "number out of range"
  | .nestedTooDeep => "recursion limit exceeded"

/-- A fault found `beyond` bytes into `rest`, or at its end if that is shorter. -/
structure Fault where
  reason : Reason
  rest : List Char
  beyond : Nat
  deriving DecidableEq, Repr

def Fault.at (reason : Reason) (rest : List Char) : Fault :=
  ⟨reason, rest, 0⟩

def Fault.front (reason : Reason) (rest : List Char) : Fault :=
  ⟨reason, rest, 1⟩

structure SyntaxError where
  reason : Reason
  line : Nat
  column : Nat
  deriving DecidableEq, Repr

namespace SyntaxError

def message (e : SyntaxError) : String :=
  s!"{e.reason.message} at line {e.line} column {e.column}"

def position (before : List UInt8) : Nat × Nat :=
  (1 + before.count 10, (before.reverse.takeWhile (· ≠ 10)).length)

def locate (text : List Char) (fault : Fault) : SyntaxError :=
  let bytes := text.flatMap String.utf8EncodeChar
  let left := (fault.rest.flatMap String.utf8EncodeChar).length
  let (line, column) := position (bytes.take (bytes.length - left + fault.beyond))
  ⟨fault.reason, line, column⟩

end SyntaxError

end ResumableSession.Json
