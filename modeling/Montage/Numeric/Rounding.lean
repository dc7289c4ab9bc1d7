/-!
# Rounding rationals

Rounding to whole numbers with ties to even, and the largest powers of two and of
ten below a positive rational.  All of it is exact integer arithmetic.
-/

namespace Montage.Rounding

/-- The whole number nearest to a rational; a tie goes to the even neighbour. -/
def halfEven (value : Rat) : Int :=
  let below := value.floor
  let excess := value - below
  if excess < 1 / 2 then below
  else if 1 / 2 < excess then below + 1
  else if below % 2 = 0 then below else below + 1

def towardZero (value : Rat) : Int :=
  Int.tdiv value.num value.den

/-- The exponent of the largest power of two that is at most a positive
rational. -/
def floorLogTwo (value : Rat) : Int :=
  let numerator := value.num.toNat
  let estimate : Int := (numerator.log2 : Int) - (value.den.log2 : Int)
  if (2 : Rat) ^ estimate ≤ value then estimate else estimate - 1

/-- The exponent of the largest power of ten that is at most a positive rational. -/
def floorLogTen (value : Rat) : Int :=
  -- The guess scales the binary exponent by the logarithm of two, and is off by at most one.
  let guess := Int.fdiv (floorLogTwo value * 30103) 100000
  if (10 : Rat) ^ (guess + 1) ≤ value then guess + 1
  else if (10 : Rat) ^ guess ≤ value then guess
  else guess - 1

end Montage.Rounding
