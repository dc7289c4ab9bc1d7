import Montage.Numeric.Binary64

/-!
# Decimal text of numbers

The shortest decimal that reads back as the same binary64 number, the layout of
number text, and amounts with at most six decimal places.
-/

namespace Montage.Decimal

def digitsOf (value : Nat) : List Char :=
  Nat.toDigits 10 value

def ofInt (value : Int) : String :=
  if value < 0 then "-" ++ String.ofList (digitsOf value.natAbs)
  else String.ofList (digitsOf value.natAbs)

/-- The candidate with `count` digits that reads back as a positive binary64 value,
if there is one: the nearer of the two neighbours on that decimal grid, an even
one at a tie. -/
def candidate? (value : Rat) (count : Nat) : Option (Nat × Int) :=
  let exponent := Rounding.floorLogTen value - ((count : Int) - 1)
  let unit := (10 : Rat) ^ exponent
  let position := value / unit
  let below := position.floor
  let readsBack (digits : Int) : Bool := Binary64.nearest (digits * unit) = value
  let nearer := Rounding.halfEven position
  let farther := if nearer = below then below + 1 else below
  if readsBack nearer then some (nearer.toNat, exponent)
  else if readsBack farther then some (farther.toNat, exponent)
  else none

def withoutTrailingZeros (digits : List Char) (exponent : Int) :
    List Char × Int :=
  let kept := (digits.reverse.dropWhile (· == '0')).reverse
  (kept, exponent + ((digits.length - kept.length : Nat) : Int))

/-- The fewest digits that read back as a positive binary64 value, with the
exponent of the last digit.  Seventeen digits always suffice. -/
def shortest (value : Rat) : List Char × Int :=
  match (List.range 17).findSome? fun count => candidate? value (count + 1) with
  | some (digits, exponent) => withoutTrailingZeros (digitsOf digits) exponent
  | none => (['0'], 0)

/-- How number text is laid out: the exponents of the first digit that are written
positionally, the texts of the special values, and the least number of exponent
digits. -/
structure Layout where
  leastPositional : Int
  greatestPositional : Int
  exponentDigits : Nat
  infinity : String
  undefined : String

/-- The layout of number text: positional from `0.0001` up to below `1e16`, at least
one decimal place, and a signed exponent of two digits or more beyond that. -/
def numberLayout : Layout := ⟨-4, 15, 2, "inf", "nan"⟩

/-- A digit list with a decimal point after the first `whole` digits, which may lie
outside the list. -/
def positional (digits : List Char) (whole : Int) : List Char :=
  if whole ≤ 0 then
    ['0', '.'] ++ List.replicate (-whole).toNat '0' ++ digits
  else
    let count := whole.toNat
    if digits.length ≤ count then
      digits ++ List.replicate (count - digits.length) '0' ++ ['.', '0']
    else digits.take count ++ ['.'] ++ digits.drop count

def scientific (layout : Layout) (digits : List Char) (exponent : Int) :
    List Char :=
  let mantissa := match digits with
    | [] => ['0']
    | [digit] => [digit]
    | digit :: rest => digit :: '.' :: rest
  let magnitude := digitsOf exponent.natAbs
  mantissa ++ ['e', if exponent < 0 then '-' else '+'] ++
    List.replicate (layout.exponentDigits - magnitude.length) '0' ++ magnitude

def positiveText (layout : Layout) (value : Rat) : List Char :=
  let (digits, lastExponent) := shortest value
  let firstExponent := lastExponent + ((digits.length : Int) - 1)
  if layout.leastPositional ≤ firstExponent ∧
      firstExponent ≤ layout.greatestPositional then
    positional digits (firstExponent + 1)
  else scientific layout digits firstExponent

def text (layout : Layout) : Binary64 → String
  | .nan => layout.undefined
  | .infinite negative => if negative then "-" ++ layout.infinity else layout.infinity
  | .negativeZero => "-0.0"
  | .finite value _ =>
      if value = 0 then "0.0"
      else if value < 0 then "-" ++ String.ofList (positiveText layout (-value))
      else String.ofList (positiveText layout value)

def ofBinary64 (number : Binary64) : String :=
  text numberLayout number

def padZeros (width : Nat) (digits : List Char) : List Char :=
  List.replicate (width - digits.length) '0' ++ digits

/-- A rational with a fixed number of decimal places, ties to even. -/
def fixed (places : Nat) (value : Rat) : String :=
  let unit := Nat.pow 10 places
  let scaled := (Rounding.halfEven (value.abs * (unit : Rat))).toNat
  let whole := digitsOf (scaled / unit)
  let fraction := padZeros places (digitsOf (scaled % unit))
  String.ofList ((if value < 0 then ['-'] else []) ++ whole ++
    (if places = 0 then [] else '.' :: fraction))

def fixedText (places : Nat) : Binary64 → String
  | .nan => "nan"
  | .infinite negative => if negative then "-inf" else "inf"
  | .negativeZero => "-" ++ fixed places 0
  | .finite value _ => fixed places value

/-- A rational rounded to six decimal places, without zeros at the end and without a
sign on zero. -/
def amountOfRat (value : Rat) : List Char :=
  let scaled := (Rounding.halfEven (value.abs * 1000000)).toNat
  let whole := digitsOf (scaled / 1000000)
  let fraction :=
    (padZeros 6 (digitsOf (scaled % 1000000))).reverse.dropWhile (· == '0')
  (if value < 0 ∧ scaled ≠ 0 then ['-'] else []) ++ whole ++
    (if fraction.isEmpty then [] else '.' :: fraction.reverse)

/-- The text of an amount in an encoder command: at most six decimal places and
nothing superfluous. -/
def amount : Binary64 → String
  | .nan => "nan"
  | .infinite negative => if negative then "-inf" else "inf"
  | .negativeZero => "0"
  | .finite value _ => String.ofList (amountOfRat value)

end Montage.Decimal
