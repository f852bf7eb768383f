import Formula.Number.Binary64

/-! The shortest decimal that reads back as a given magnitude, and the nearest of those. Every finite
magnitude is a whole number of units of `10 ^ (-1074)`, as it is one of units of `2 ^ (-1074)`. -/
namespace Formula

/-- The decimal number `coefficient * 10 ^ scale`, in units of `10 ^ (-1074)`. -/
structure Decimal where
  coefficient : Nat
  scale : Nat
  deriving DecidableEq, Repr

/-- The number of units. -/
def Decimal.value (decimal : Decimal) : Nat := decimal.coefficient * tenPow decimal.scale

/-- The number of decimal digits of `n`. As `1233 / 4096` is a little less than the logarithm of two,
the power of two below `n` has at most one digit less than the estimate, and `n` at most one more. -/
def digitCount (n : Nat) : Nat :=
  let estimate := n.log2 * 1233 / 4096 + 1
  if n < tenPow estimate then estimate else estimate + 1

namespace Binary64

/-- The decimal reads back as the magnitude of this rank. -/
def readsBack (rank : Nat) (decimal : Decimal) : Bool := rankOf decimal.value (tenPow 1074) = rank

/-- The magnitude of a finite rank in units of `10 ^ (-1074)`. -/
def decimalUnits (rank : Nat) : Nat := units rank * Nat.pow 5 1074

/-- One of the two decimals of a scale beside the magnitude, if it reads back. Where both do, the nearer
wins, and the upper one if none is nearer. -/
def atScale? (rank scale : Nat) : Option Decimal :=
  let low : Decimal := ⟨decimalUnits rank / tenPow scale,scale⟩
  let high : Decimal := ⟨low.coefficient + 1,scale⟩
  if readsBack rank low then
    if readsBack rank high && low.value + high.value ≤ 2 * decimalUnits rank then some high
    else some low
  else if readsBack rank high then some high
  else none

/-- The decimal of a finite rank with the fewest digits. Seventeen digits are enough for any; the
magnitude itself stands behind them. -/
def shortest (rank : Nat) : Decimal :=
  let length := digitCount (decimalUnits rank)
  ((List.range' 1 17).findSome? fun digits => atScale? rank (length - digits)).getD
    ⟨decimalUnits rank,0⟩

end Binary64
end Formula
