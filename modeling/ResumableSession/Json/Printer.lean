import ResumableSession.Json.Basic
import ResumableSession.Decimal.Layout

/-!
The written form of JSON values.

There are no blanks.  A string escapes the quote, the backslash and the control characters and
writes every other character as it is, so no text that is printed here holds a newline.
-/

namespace ResumableSession.Json

/-! ## Numbers -/

/-- Doubles are written positionally from `0.00001` up to `1e16`. -/
def floatLayout : Decimal.Layout := ⟨-5, 16⟩

def printInt (n : Int) : List Char :=
  if n < 0 then '-' :: Nat.toDigits 10 n.natAbs else Nat.toDigits 10 n.natAbs

def signUnit : Nat := 0x8000000000000000

/-- The lowest bit of the exponent field, which is also the bit that no fraction shows. -/
def fieldUnit : Nat := 0x10000000000000

def lastField : Nat := 0x7ff

/-- The size of a finite double, which is `significand * 2 ^ (max field 1 - 1075)`. -/
def printMagnitude (field fraction : Nat) : List Char :=
  if field = 0 then
    if fraction = 0 then ['0', '.', '0']
    else floatLayout.write (Decimal.Rounding.ofDouble fraction (-1074) false).shortest
  else
    floatLayout.write
      (Decimal.Rounding.ofDouble (fieldUnit + fraction) (field - 1075)
        (fraction == 0 && field != 1)).shortest

/-- A double with its sign, which zero has as well.  Infinities and NaN have no written form. -/
def printFloat (x : Float) : List Char :=
  let bits := x.toBits.toNat
  let field := bits / fieldUnit % (lastField + 1)
  let fraction := bits % fieldUnit
  if field = lastField then ['n', 'u', 'l', 'l']
  else if signUnit ≤ bits then '-' :: printMagnitude field fraction
  else printMagnitude field fraction

def Number.print : Number → List Char
  | .integer value => printInt value
  | .float value => printFloat value

/-! ## Strings -/

def escapeByNumber (c : Char) : List Char :=
  ['\\', 'u', '0', '0', Nat.digitChar (c.toNat / 16), Nat.digitChar (c.toNat % 16)]

def escapeChar (c : Char) : List Char :=
  if c = '"' then ['\\', '"']
  else if c = '\\' then ['\\', '\\']
  else if c = '\x08' then ['\\', 'b']
  else if c = '\x0c' then ['\\', 'f']
  else if c = '\n' then ['\\', 'n']
  else if c = '\r' then ['\\', 'r']
  else if c = '\t' then ['\\', 't']
  else if c < ' ' then escapeByNumber c
  else [c]

def printString (text : String) : List Char :=
  '"' :: text.toList.flatMap escapeChar ++ ['"']

/-! ## Values -/

mutual

def print : Json → List Char
  | .null => ['n', 'u', 'l', 'l']
  | .bool true => ['t', 'r', 'u', 'e']
  | .bool false => ['f', 'a', 'l', 's', 'e']
  | .number value => value.print
  | .string value => printString value
  | .array items => '[' :: printItems items ++ [']']
  | .object members => '{' :: printMembers members ++ ['}']

def printItems : List Json → List Char
  | [] => []
  | [item] => item.print
  | item :: rest => item.print ++ ',' :: printItems rest

def printMembers : List (String × Json) → List Char
  | [] => []
  | [(name, value)] => printString name ++ ':' :: value.print
  | (name, value) :: rest => printString name ++ ':' :: value.print ++ ',' :: printMembers rest

end

def render (v : Json) : String :=
  String.ofList v.print

end ResumableSession.Json
