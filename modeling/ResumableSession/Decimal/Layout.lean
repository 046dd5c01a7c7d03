import ResumableSession.Decimal.Shortest

/-!
The written form of a decimal.

A number of middling size is written with all its places and at least one of them after the
point.  Any other number has one digit before the point and its exponent behind it.
-/

namespace ResumableSession.Decimal

/-- The exponents of the leading digit for which all places are written: `first ≤ e < limit`. -/
structure Layout where
  first : Int
  limit : Int
  deriving DecidableEq, Repr

/-- The digits without the zeros at the end, of which there are only few. -/
def significant (digits : Nat) : List Char :=
  ((Nat.toDigits 10 digits).reverse.dropWhile (· == '0')).reverse

def positional (digits : List Char) (lead : Int) : List Char :=
  if lead < 0 then
    '0' :: '.' :: List.replicate (-lead - 1).toNat '0' ++ digits
  else
    let whole := lead.toNat + 1
    let zeros := List.replicate (whole - digits.length) '0'
    let places := digits.drop whole
    digits.take whole ++ zeros ++ '.' :: if places.isEmpty then ['0'] else places

def scientific (digits : List Char) (lead : Int) : List Char :=
  let mantissa :=
    match digits with
    | [] => []
    | [digit] => [digit]
    | digit :: rest => digit :: '.' :: rest
  mantissa ++ 'e' :: (if lead < 0 then '-' else '+') :: Nat.toDigits 10 lead.natAbs

def Layout.write (layout : Layout) (d : Scaled) : List Char :=
  let lead := d.exponent + (digitCount d.digits - 1)
  let digits := significant d.digits
  if layout.first ≤ lead ∧ lead < layout.limit then positional digits lead
  else scientific digits lead

end ResumableSession.Decimal
