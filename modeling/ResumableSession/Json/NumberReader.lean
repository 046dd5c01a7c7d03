import ResumableSession.Json.Basic
import ResumableSession.Json.Parsed

/-!
Reading numbers.

A number without point and exponent that fits a word of 64 bits, signed or not, is an integer.
Every other number is a double.  Its digits are gathered as long as they fit a word; the double
is that word scaled by a power of ten, with one rounding for each operation.  It need not be the
double nearest to the text.
-/

namespace ResumableSession.Json

/-- What is read of a number before its value is decided: `significand * 10 ^ exponent`. -/
structure Gathered where
  significand : Nat
  exponent : Int
  deriving DecidableEq, Repr

def digitValue (c : Char) : Nat :=
  c.toNat - '0'.toNat

/-- Appends digits as long as the result is below the limit.  Gives the digits left over too. -/
def gather (limit : Nat) : Nat → List Char → Nat × List Char
  | n, [] => (n, [])
  | n, c :: rest =>
      if n * 10 + digitValue c < limit then gather limit (n * 10 + digitValue c) rest
      else (n, c :: rest)

/-- Digits before the point.  Each one that no longer fits stands for one more power of ten. -/
def gatherWhole (digits : List Char) : Gathered :=
  let (significand, left) := gather UInt64.size 0 digits
  ⟨significand, left.length⟩

/-- Digits after the point.  The first one that does not fit ends the gathering. -/
def gatherPlaces (whole : Gathered) (digits : List Char) : Gathered :=
  let (significand, left) := gather UInt64.size whole.significand digits
  ⟨significand, whole.exponent - (digits.length - left.length)⟩

/-! ## The value -/

def powerOfTen (k : Nat) : Float :=
  Float.ofScientific 1 false k

/-- Brings the exponent into the range of the powers of ten.  Nothing if the number is too large. -/
def scale (x : Float) (exponent : Int) : Option Float :=
  if exponent.natAbs ≤ 308 then
    if exponent < 0 then some (x / powerOfTen exponent.natAbs)
    else
      let y := x * powerOfTen exponent.natAbs
      if y.isInf then none else some y
  else if x == 0 then some x
  else if exponent < 0 then scale (x / powerOfTen 308) (exponent + 308)
  else none
  termination_by exponent.natAbs
  decreasing_by omega

def signed (negative : Bool) (x : Float) : Float :=
  if negative then -x else x

def Gathered.toFloat? (negative : Bool) (g : Gathered) : Option Float :=
  (scale g.significand.toUInt64.toFloat g.exponent).map (signed negative)

def leastSize : Nat := 0x8000000000000000

/-- A whole number that fits a word.  There is no integer for minus zero. -/
def ofWhole (negative : Bool) (n : Nat) : Number :=
  if negative then
    if n = 0 ∨ leastSize < n then .float (-n.toUInt64.toFloat) else .integer (-n)
  else .integer n

/-! ## The exponent -/

def exponentLimit : Nat := 0x80000000

def addExponent (a b : Int) : Int :=
  max (-exponentLimit) (min (exponentLimit - 1) (a + b))

/-! ## The reader -/

def digitsOf (text : List Char) : List Char :=
  text.takeWhile Char.isDigit

def afterDigits (text : List Char) : List Char :=
  text.dropWhile Char.isDigit

def finishFloat (negative : Bool) (g : Gathered) (rest : List Char) :
    Except Fault (Number × List Char) :=
  match g.toFloat? negative with
  | some x => .ok (.float x, rest)
  | none => .error (.at .numberOutOfRange rest)

def readExponentDigits (negative down : Bool) (g : Gathered) (text : List Char) :
    Except Fault (Number × List Char) :=
  match text with
  | [] => .error (.at .unfinishedValue [])
  | c :: _ =>
      if c.isDigit then
        match gather exponentLimit 0 (digitsOf text) with
        | (n, []) =>
            finishFloat negative
              { g with exponent := addExponent g.exponent (if down then -n else n) }
              (afterDigits text)
        | (_, _ :: left) =>
            if g.significand ≠ 0 ∧ !down then
              .error (.at .numberOutOfRange (left ++ afterDigits text))
            else .ok (.float (signed negative 0), afterDigits text)
      else .error (.front .invalidNumber text)

def readExponent (negative : Bool) (g : Gathered) (text : List Char) :
    Except Fault (Number × List Char) :=
  match text with
  | '+' :: rest => readExponentDigits negative false g rest
  | '-' :: rest => readExponentDigits negative true g rest
  | _ => readExponentDigits negative false g text

def readAfterPlaces (negative : Bool) (g : Gathered) (text : List Char) :
    Except Fault (Number × List Char) :=
  match text with
  | 'e' :: rest | 'E' :: rest => readExponent negative g rest
  | _ => finishFloat negative g text

def readPlaces (negative : Bool) (whole : Gathered) (text : List Char) :
    Except Fault (Number × List Char) :=
  match text with
  | [] => .error (.at .unfinishedValue [])
  | c :: _ =>
      if c.isDigit then
        readAfterPlaces negative (gatherPlaces whole (digitsOf text)) (afterDigits text)
      else .error (.front .invalidNumber text)

def readAfterWhole (negative : Bool) (whole : Gathered) (text : List Char) :
    Except Fault (Number × List Char) :=
  match text with
  | '.' :: rest => readPlaces negative whole rest
  | 'e' :: rest | 'E' :: rest => readExponent negative whole rest
  | _ =>
      if whole.exponent = 0 then .ok (ofWhole negative whole.significand, text)
      else finishFloat negative whole text

def readUnsigned (negative : Bool) (text : List Char) : Except Fault (Number × List Char) :=
  match text with
  | [] => .error (.at .unfinishedValue [])
  | c :: rest =>
      if c = '0' ∧ (digitsOf rest).length ≠ 0 then .error (.front .invalidNumber rest)
      else if c.isDigit then
        readAfterWhole negative (gatherWhole (digitsOf text)) (afterDigits text)
      else .error (.front .invalidNumber text)

/-! ## What is left is shorter -/

theorem length_afterDigits_le (text : List Char) : (afterDigits text).length ≤ text.length :=
  (List.dropWhile_sublist _).length_le

theorem finishFloat_rest {negative : Bool} {g : Gathered} {text rest : List Char} {n : Number}
    (h : finishFloat negative g text = .ok (n, rest)) : rest = text := by
  unfold finishFloat at h
  split at h
  · exact (Prod.mk.inj (Except.ok.inj h)).2.symm
  · contradiction

theorem length_readExponentDigits_le {negative down : Bool} {g : Gathered}
    {text rest : List Char} {n : Number}
    (h : readExponentDigits negative down g text = .ok (n, rest)) :
    rest.length ≤ text.length := by
  unfold readExponentDigits at h
  split at h
  · contradiction
  · split at h
    · split at h
      · rw [finishFloat_rest h]
        exact length_afterDigits_le _
      · split at h
        · contradiction
        · rw [← (Prod.mk.inj (Except.ok.inj h)).2]
          exact length_afterDigits_le _
    · contradiction

theorem length_readExponent_le {negative : Bool} {g : Gathered} {text rest : List Char}
    {n : Number} (h : readExponent negative g text = .ok (n, rest)) :
    rest.length ≤ text.length := by
  unfold readExponent at h
  split at h
  · exact Nat.le_succ_of_le (length_readExponentDigits_le h)
  · exact Nat.le_succ_of_le (length_readExponentDigits_le h)
  · exact length_readExponentDigits_le h

theorem length_readAfterPlaces_le {negative : Bool} {g : Gathered} {text rest : List Char}
    {n : Number} (h : readAfterPlaces negative g text = .ok (n, rest)) :
    rest.length ≤ text.length := by
  unfold readAfterPlaces at h
  split at h
  · exact Nat.le_succ_of_le (length_readExponent_le h)
  · exact Nat.le_succ_of_le (length_readExponent_le h)
  · exact Nat.le_of_eq (congrArg List.length (finishFloat_rest h))

theorem length_readPlaces_le {negative : Bool} {whole : Gathered} {text rest : List Char}
    {n : Number} (h : readPlaces negative whole text = .ok (n, rest)) :
    rest.length ≤ text.length := by
  unfold readPlaces at h
  split at h
  · contradiction
  · split at h
    · exact Nat.le_trans (length_readAfterPlaces_le h) (length_afterDigits_le _)
    · contradiction

theorem length_readAfterWhole_le {negative : Bool} {whole : Gathered} {text rest : List Char}
    {n : Number} (h : readAfterWhole negative whole text = .ok (n, rest)) :
    rest.length ≤ text.length := by
  unfold readAfterWhole at h
  split at h
  · exact Nat.le_succ_of_le (length_readPlaces_le h)
  · exact Nat.le_succ_of_le (length_readExponent_le h)
  · exact Nat.le_succ_of_le (length_readExponent_le h)
  · split at h
    · exact Nat.le_of_eq (congrArg List.length (Prod.mk.inj (Except.ok.inj h)).2.symm)
    · exact Nat.le_of_eq (congrArg List.length (finishFloat_rest h))

theorem length_readUnsigned_lt {negative : Bool} {text rest : List Char} {n : Number}
    (h : readUnsigned negative text = .ok (n, rest)) : rest.length < text.length := by
  unfold readUnsigned at h
  split at h
  · contradiction
  · next c tail =>
      split at h
      · contradiction
      · split at h
        · next hdigit =>
            have := length_readAfterWhole_le h
            rw [afterDigits, List.dropWhile_cons, if_pos hdigit] at this
            exact Nat.lt_succ_of_le (Nat.le_trans this (length_afterDigits_le tail))
        · contradiction

def readNumber (text : List Char) : Reading Number text :=
  match text with
  | '-' :: digits =>
      match h : readUnsigned true digits with
      | .ok (n, rest) => .ok ⟨n, rest, Nat.lt_succ_of_lt (length_readUnsigned_lt h)⟩
      | .error fault => .error fault
  | text =>
      match h : readUnsigned false text with
      | .ok (n, rest) => .ok ⟨n, rest, length_readUnsigned_lt h⟩
      | .error fault => .error fault

end ResumableSession.Json
