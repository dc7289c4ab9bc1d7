import Montage.Numeric.Numeral

/-!
# Wire numerals

Numbers that wire documents give as texts.  They are written in ASCII.  Whole numbers may
lead with zeros, end in a fraction of zeros, and have underscores between their digits;
in binary64 numbers single underscores may stand anywhere but at the ends.
-/

namespace Montage.Wire.Numeral

/-- What follows the zeros that lead a whole number, with one zero left in front of a
point. -/
def afterZeros : Char → List Char → Option (List Char)
  | last, [] => some [last]
  | last, character :: rest =>
      if character = '0' ∨ character = '_' then afterZeros character rest
      else if character = '.' then some (last :: character :: rest)
      -- A minus sign may come after the zeros, and its number is read with it.
      else if character = '-' ∨ character.isDigit then some (character :: rest)
      else none

def withoutLeadingZeros : List Char → Option (List Char)
  | [] => none
  | first :: rest =>
      if first = '0' then afterZeros first rest
      else if first = '-' ∨ first.isDigit then some (first :: rest)
      else none

/-- Whether a whole number has a minus sign in front, and what follows its sign. -/
def takeSign : List Char → Option (Bool × List Char)
  -- A plus sign may not hide a minus sign, which could be read with the number.
  | '+' :: '-' :: _ => none
  | '+' :: rest => some (false, rest)
  | '-' :: rest => some (true, rest)
  | characters => some (false, characters)

/-- A whole number without the fraction of zeros that may end it. -/
def withoutZeroFraction (characters : List Char) : List Char :=
  let zeros := (characters.dropWhile (· != '.')).drop 1
  if !zeros.isEmpty && zeros.all (· == '0') then characters.takeWhile (· != '.')
  else characters

def hasDoubleUnderscore : List Char → Bool
  | '_' :: '_' :: _ => true
  | _ :: rest => hasDoubleUnderscore rest
  | [] => false

/-- A numeral without its underscores, if it has any and they stand singly inside it. -/
def withoutUnderscores? (characters : List Char) : Option (List Char) :=
  if characters.head? == some '_' || characters.getLast? == some '_' ||
      hasDoubleUnderscore characters || !characters.contains '_' then none
  else some (characters.filter (· != '_'))

/-- The plain form of a whole number: at most a minus sign and digits. -/
def plainForm (text : List Char) : Option (List Char) := do
  let (isNegative, unsigned) ← takeSign (Text.trimBy Numeral.isBlank text)
  let bare ← withoutLeadingZeros unsigned
  let whole := withoutZeroFraction bare
  let signed := if isNegative then '-' :: whole else whole
  some ((withoutUnderscores? signed).getD signed)

inductive WholeReading where
  | whole (value : Int)
  | unreadable
  | tooLong
  deriving DecidableEq, Repr, Inhabited

/-- The whole number that a plain form writes. -/
def readPlain (characters : List Char) : WholeReading :=
  let (negative, body) : Bool × List Char := match characters with
    | '-' :: rest => (true, rest)
    | rest => (false, rest)
  let (digits, beyond) := Numeral.takeDigits body
  match digits with
  | [] => .unreadable
  | [0] => if beyond.isEmpty then .whole 0 else .unreadable
  | 0 :: _ => .unreadable
  | _ =>
      -- What comes after too many digits is not looked at.
      if Numeral.digitLimit < digits.length then .tooLong
      else if !beyond.isEmpty then .unreadable
      else
        let magnitude : Int := Numeral.ofDigits digits
        .whole (if negative then -magnitude else magnitude)

def whole (text : List Char) : WholeReading :=
  ((plainForm text).map readPlain).getD .unreadable

/-- The binary64 number that a text writes.  White space around it is passed over only
where there are no underscores. -/
def binary64? (text : List Char) : Option Binary64 :=
  (Numeral.ascii? (Text.trimBy Numeral.isBlank text)).or
    ((withoutUnderscores? text).bind Numeral.ascii?)

end Montage.Wire.Numeral
