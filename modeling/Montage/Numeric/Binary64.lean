import Montage.Numeric.Rounding

/-!
# Binary64 numbers

Times, durations and volumes are IEEE binary64 numbers.  A finite number is kept
as the rational it denotes, together with the fact that this rational lies on the
binary64 grid; every operation computes exactly and rounds once, to the nearest
grid point with ties to even.
-/

namespace Montage

namespace Binary64

/-- The exponent of the grid around a nonzero rational: 53 binary digits, and no
finer than the least subnormal number. -/
def gridExponent (value : Rat) : Int :=
  max (Rounding.floorLogTwo value.abs - 52) (-1074)

def isRepresentable (value : Rat) : Bool :=
  value = 0 ||
    ((value / (2 : Rat) ^ gridExponent value).den == 1 &&
      value.abs < (2 : Rat) ^ (1024 : Nat))

def nearest (value : Rat) : Rat :=
  if value = 0 then 0
  else
    let unit := (2 : Rat) ^ gridExponent value
    Rounding.halfEven (value / unit) * unit

end Binary64

inductive Binary64 where
  | nan
  | infinite (negative : Bool)
  | negativeZero
  | finite (value : Rat) (representable : Binary64.isRepresentable value = true)
  deriving DecidableEq

/-- Reasons why a number has no whole-number form. -/
inductive NumericError where
  | overflow
  | undefined
  deriving DecidableEq, Repr

namespace Binary64

def zero : Binary64 := .finite 0 (by decide)

/-- Rounds a rational. -/
def ofRat (value : Rat) : Binary64 :=
  -- What rounds to nothing keeps its sign, and what lies off the grid then is too large.
  let rounded := nearest value
  if rounded = 0 ∧ value < 0 then .negativeZero
  else if representable : isRepresentable rounded then
    .finite rounded representable
  else .infinite (value < 0)

def ofInt (value : Int) : Binary64 := ofRat value

instance : Inhabited Binary64 := ⟨zero⟩

instance {value : Nat} : OfNat Binary64 value := ⟨ofInt value⟩

/-- The binary64 number nearest to `digits * 10 ^ exponent`, with a sign. -/
def ofDecimal (negative : Bool) (digits : Nat) (exponent : Int) : Binary64 :=
  if digits = 0 then if negative then .negativeZero else zero
  else
    let magnitude : Int := (Nat.toDigits 10 digits).length + exponent
    -- Far outside the range nothing has to be computed.
    if 310 < magnitude then .infinite negative
    else if magnitude < -330 then if negative then .negativeZero else zero
    else
      let value := (digits : Rat) * (10 : Rat) ^ exponent
      ofRat (if negative then -value else value)

def toRat? : Binary64 → Option Rat
  | .finite value _ => some value
  | .negativeZero => some 0
  | _ => none

def isNegative : Binary64 → Bool
  | .nan => false
  | .infinite negative => negative
  | .negativeZero => true
  | .finite value _ => value < 0

def neg : Binary64 → Binary64
  | .nan => .nan
  | .infinite negative => .infinite (!negative)
  | .negativeZero => zero
  | .finite value _ => if value = 0 then .negativeZero else ofRat (-value)

instance : Neg Binary64 := ⟨neg⟩

def signedZero (negative : Bool) : Binary64 :=
  if negative then .negativeZero else zero

/-- The sum, rounded.  Two negative zeros add up to a negative zero. -/
def add : Binary64 → Binary64 → Binary64
  | .nan, _ => .nan
  | _, .nan => .nan
  | .infinite first, .infinite second =>
      if first = second then .infinite first else .nan
  | .infinite negative, _ => .infinite negative
  | _, .infinite negative => .infinite negative
  | .negativeZero, .negativeZero => .negativeZero
  | .negativeZero, .finite value _ => ofRat value
  | .finite value _, .negativeZero => ofRat value
  | .finite first _, .finite second _ => ofRat (first + second)

instance : Add Binary64 := ⟨add⟩

instance : Sub Binary64 := ⟨fun first second => first + -second⟩

/-- The product, rounded. -/
def mul (first second : Binary64) : Binary64 :=
  let negative := first.isNegative != second.isNegative
  match first, second with
  | .nan, _ => .nan
  | _, .nan => .nan
  | .infinite _, other =>
      if other.toRat? = some 0 then .nan else .infinite negative
  | other, .infinite _ =>
      if other.toRat? = some 0 then .nan else .infinite negative
  | first, second =>
      let product := first.toRat?.getD 0 * second.toRat?.getD 0
      if product = 0 then signedZero negative else ofRat product

instance : Mul Binary64 := ⟨mul⟩

/-- The quotient, rounded, with the signed infinities of division by zero. -/
def div (first second : Binary64) : Binary64 :=
  let negative := first.isNegative != second.isNegative
  match first, second with
  | .nan, _ => .nan
  | _, .nan => .nan
  | .infinite _, .infinite _ => .nan
  | .infinite _, _ => .infinite negative
  | _, .infinite _ => signedZero negative
  | first, second =>
      let dividend := first.toRat?.getD 0
      let divisor := second.toRat?.getD 0
      if divisor = 0 then
        if dividend = 0 then .nan else .infinite negative
      else if dividend = 0 then signedZero negative
      else ofRat (dividend / divisor)

instance : Div Binary64 := ⟨div⟩

/-- Strict order, in which the two zeros are equal. -/
def less : Binary64 → Binary64 → Bool
  | .nan, _ => false
  | _, .nan => false
  | .infinite first, .infinite second => first && !second
  | .infinite negative, _ => negative
  | _, .infinite negative => !negative
  | first, second => first.toRat?.getD 0 < second.toRat?.getD 0

instance : LT Binary64 := ⟨fun first second => less first second = true⟩

instance (first second : Binary64) : Decidable (first < second) :=
  inferInstanceAs (Decidable (less first second = true))

/-- Numerical equality, under which the two zeros are equal and what is not a
number equals nothing. -/
def equal : Binary64 → Binary64 → Bool
  | .nan, _ => false
  | _, .nan => false
  | .infinite first, .infinite second => first == second
  | .infinite _, _ => false
  | _, .infinite _ => false
  | first, second => first.toRat?.getD 0 = second.toRat?.getD 0

def atMost (first second : Binary64) : Bool :=
  less first second || equal first second

instance : LE Binary64 := ⟨fun first second => atMost first second = true⟩

instance (first second : Binary64) : Decidable (first ≤ second) :=
  inferInstanceAs (Decidable (atMost first second = true))

def larger (first second : Binary64) : Binary64 :=
  if first < second then second else first

def toRat : Binary64 → Except NumericError Rat
  | .nan => .error .undefined
  | .infinite _ => .error .overflow
  | .negativeZero => .ok 0
  | .finite value _ => .ok value

def floor (number : Binary64) : Except NumericError Int :=
  number.toRat.map Rat.floor

def round (number : Binary64) : Except NumericError Int :=
  number.toRat.map Rounding.halfEven

def truncate (number : Binary64) : Except NumericError Int :=
  number.toRat.map Rounding.towardZero

end Binary64

end Montage
