import Formula.Text.Digits

/-! Double-precision numbers. Magnitudes are numbered in increasing order, so that a number is a sign
and a rank: rank zero is zero, the ranks below infinity are the finite magnitudes, those above it
are not numbers. Every finite magnitude is a whole number of units of `2 ^ (-1074)`. -/
namespace Formula

/-- The powers of two. -/
def twoPow (n : Nat) : Nat := Nat.pow 2 n

/-- The powers of ten. -/
def tenPow (n : Nat) : Nat := Nat.pow 10 n

structure Binary64 where
  negative : Bool
  rank : Nat
  rank_lt : rank < twoPow 63
  deriving DecidableEq, Repr

namespace Binary64

/-- The rank of infinity. -/
def infinityRank : Nat := 2047 * twoPow 52

/-- The magnitude of a finite rank, in units of `2 ^ (-1074)`. -/
def units (rank : Nat) : Nat :=
  if rank < twoPow 52 then rank else (twoPow 52 + rank % twoPow 52) * twoPow (rank / twoPow 52 - 1)

/-- The whole number nearest to a quotient; a half goes to the even neighbour. -/
def roundDiv (num den : Nat) : Nat :=
  if 2 * (num % den) < den then num / den
  else if den < 2 * (num % den) then num / den + 1
  else num / den + num / den % 2

/-- The rank of the magnitude nearest to `num / den`, ties to even. What is too large is infinite. -/
def rankOf (num den : Nat) : Nat :=
  let shift := (num * twoPow 1074 / den).log2 - 52
  min (shift * twoPow 52 + roundDiv (num * twoPow 1074) (den * twoPow shift)) infinityRank

theorem rankOf_le (num den : Nat) : rankOf num den ≤ infinityRank := Nat.min_le_right _ _

/-- The number nearest to the quotient `num / den`. -/
def ofRatio (num den : Nat) : Binary64 :=
  ⟨false,rankOf num den,Nat.lt_of_le_of_lt (rankOf_le num den) (by decide)⟩

/-- The number written with these digits before and behind the point. -/
def ofDigits (whole fraction : List Char) : Binary64 :=
  ofRatio (digitsValue (whole ++ fraction)) (tenPow fraction.length)

/-- The number that a text of digits stands for, with or without a point somewhere among them. There is
none if it has no digit, or any other character. -/
def ofDecimal? (text : List Char) : Option Binary64 :=
  let whole := text.takeWhile Char.isDigit
  let fraction := match text.drop whole.length with
    | '.' :: tail => tail
    | behind => behind
  if (whole ++ fraction).isEmpty || !fraction.all Char.isDigit then none
  else some (ofDigits whole fraction)

/-- The number with the given 64 bits: the sign, then the rank. -/
def ofBits (bits : Nat) : Binary64 :=
  ⟨bits / twoPow 63 % 2 = 1,bits % twoPow 63,Nat.mod_lt _ (by decide)⟩

def toBits (x : Binary64) : Nat :=
  (if x.negative then twoPow 63 else 0) + x.rank

def isNaN (x : Binary64) : Bool := infinityRank < x.rank

def isInfinite (x : Binary64) : Bool := x.rank = infinityRank

/-- Numerical equality: the two zeros are equal, and what is not a number equals nothing. -/
def equals (x y : Binary64) : Bool :=
  !x.isNaN && !y.isNaN && x.rank = y.rank && (x.negative = y.negative || x.rank = 0)

end Binary64
end Formula
