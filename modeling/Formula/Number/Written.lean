import Formula.Number.Shortest

/-! How numbers are written: the plain form has no exponent and no needless point, the marked form
always shows that it is no whole number that is meant. -/
namespace Formula

namespace Decimal

def digits (decimal : Decimal) : List Char := Nat.toDigits 10 decimal.coefficient

def dropTrailingZeros (digits : List Char) : List Char :=
  (digits.reverse.dropWhile (· = '0')).reverse

/-- The digits before the point. -/
def wholeDigits (decimal : Decimal) : List Char :=
  if 1074 ≤ decimal.scale then decimal.digits ++ List.replicate (decimal.scale - 1074) '0'
  else if decimal.digits.length ≤ 1074 - decimal.scale then ['0']
  else decimal.digits.take (decimal.digits.length - (1074 - decimal.scale))

/-- The digits behind the point, without needless zeros. -/
def fractionDigits (decimal : Decimal) : List Char :=
  let places := 1074 - decimal.scale
  dropTrailingZeros (List.replicate (places - decimal.digits.length) '0'
    ++ decimal.digits.drop (decimal.digits.length - places))

/-- All digits, with a point where some stand behind it; `ending` follows a number without any. -/
def positional (ending : List Char) (decimal : Decimal) : List Char :=
  if decimal.fractionDigits.isEmpty then decimal.wholeDigits ++ ending
  else decimal.wholeDigits ++ '.' :: decimal.fractionDigits

/-- One digit, a point with more digits where there are any, and the power of ten. -/
def exponential (decimal : Decimal) : List Char :=
  let power : Int := (decimal.digits.length + decimal.scale : Nat) - 1075
  let exponent := 'e' :: (toString power).toList
  match dropTrailingZeros decimal.digits with
  | first :: second :: more => first :: '.' :: second :: more ++ exponent
  | few => few ++ exponent

end Decimal

namespace Binary64

/-- The sign stands in front of everything but what is not a number. -/
def signed (x : Binary64) (finite : Nat → List Char) : String :=
  if x.isNaN then "NaN"
  else String.ofList ((if x.negative then ['-'] else [])
    ++ if x.isInfinite then "inf".toList else finite x.rank)

/-- The plain form: `1`, `0.1`, `10000000000000000000000`, `-0`. -/
def plain (x : Binary64) : String :=
  x.signed fun rank => (shortest rank).positional []

/-- Powers of ten are used below a ten-thousandth, and from ten to the sixteenth on. -/
def isExtreme (rank : Nat) : Bool :=
  rank ≠ 0 && (rank < rankOf 1 (tenPow 4) || rankOf (tenPow 16) 1 ≤ rank)

/-- The marked form: `1.0`, `0.1`, `1e22`, `-0.0`. -/
def marked (x : Binary64) : String :=
  x.signed fun rank =>
    if isExtreme rank then (shortest rank).exponential
    else (shortest rank).positional ['.', '0']

end Binary64
end Formula
