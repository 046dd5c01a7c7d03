/-!
The shortest decimal that reads back as a given number.

A positive number comes as a fraction, together with the ends of the interval of numbers that
are rounded to it.  Decimals of one digit are tried first, then of two, and so on.  On each such
grid the two neighbours of the number are enough: if any point of the grid lies in the interval,
one of them does.
-/

namespace ResumableSession.Decimal

/--
The number `value / unit`.  All that is rounded to it lies between `low / unit` and
`high / unit`, and the two ends do so as well if `closed`.
-/
structure Rounding where
  low : Nat
  value : Nat
  high : Nat
  unit : Nat
  closed : Bool
  deriving DecidableEq, Repr

structure Scaled where
  digits : Nat
  exponent : Int
  deriving DecidableEq, Repr

/-- A power of ten, which is one for exponents below zero. -/
def tenTo (exponent : Int) : Nat :=
  Nat.pow 10 exponent.toNat

def twoTo (exponent : Int) : Nat :=
  Nat.pow 2 exponent.toNat

def digitCount (n : Nat) : Nat :=
  (Nat.toDigits 10 n).length

namespace Rounding

/--
The double `significand * 2 ^ exponent`.  Below a power of two the doubles lie closer together,
so there the interval reaches down half as far.
-/
def ofDouble (significand : Nat) (exponent : Int) (closerBelow : Bool) : Rounding where
  low := (4 * significand - if closerBelow then 1 else 2) * twoTo (exponent - 2)
  value := 4 * significand * twoTo (exponent - 2)
  high := (4 * significand + 2) * twoTo (exponent - 2)
  unit := twoTo (2 - exponent)
  closed := significand % 2 == 0

/-- The decimal over the same denominator as `value * 10 ^ (-exponent)`. -/
def numerator (r : Rounding) (d : Scaled) : Nat :=
  d.digits * r.unit * tenTo d.exponent

def admits (r : Rounding) (d : Scaled) : Bool :=
  let scale := tenTo (-d.exponent)
  if r.closed then r.low * scale ≤ r.numerator d && r.numerator d ≤ r.high * scale
  else r.low * scale < r.numerator d && r.numerator d < r.high * scale

def magnitude (r : Rounding) : Int :=
  if r.unit ≤ r.value then digitCount (r.value / r.unit) - 1
  else
    let zeros := digitCount (r.unit / r.value)
    if r.unit = r.value * tenTo (zeros - 1) then 1 - zeros else -zeros

def floor (r : Rounding) (exponent : Int) : Scaled :=
  ⟨r.value * tenTo (-exponent) / (r.unit * tenTo exponent), exponent⟩

/-- Of two neighbours on a grid the nearer one, and of two equally near ones the even one. -/
def nearer (r : Rounding) (below above : Scaled) : Scaled :=
  let twice := 2 * r.value * tenTo (-below.exponent)
  let sum := r.numerator below + r.numerator above
  if twice < sum then below
  else if sum < twice then above
  else if below.digits % 2 = 0 then below
  else above

/-- The decimal of at most `count` digits that reads back as the number, if there is one. -/
def onGrid? (r : Rounding) (count : Nat) : Option Scaled :=
  let below := r.floor (r.magnitude - (count - 1))
  let above := { below with digits := below.digits + 1 }
  match r.admits below, r.admits above with
  | true, true => some (r.nearer below above)
  | true, false => some below
  | false, true => some above
  | false, false => none

/-- No double needs more than seventeen digits. -/
def shortest (r : Rounding) : Scaled :=
  ((List.range 17).findSome? fun count => r.onGrid? (count + 1)).getD
    (r.floor (r.magnitude - 16))

end Rounding

end ResumableSession.Decimal
