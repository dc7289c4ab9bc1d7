import Montage.Numeric.Binary64
import Montage.Text.Basic

/-!
# Reading numerals

Whole numbers and binary64 numbers from free text, which may use the decimal digits of
any script and single underscores between digits.
-/

namespace Montage.Numeral

def digitLimit : Nat := 4300

/-- The values of a run of digits in which single underscores may stand between
digits.  `afterDigit` says whether a digit came just before. -/
def digitRun (value? : Char → Option Nat) : Bool → List Char → Option (List Nat)
  | afterDigit, [] => if afterDigit then some [] else none
  | afterDigit, character :: rest =>
      if character = '_' then
        if afterDigit then digitRun value? false rest else none
      else match value? character with
        | some value => (digitRun value? true rest).map (value :: ·)
        | none => none

def ofDigits (digits : List Nat) : Nat :=
  digits.foldl (fun number digit => 10 * number + digit) 0

def signed : List Char → Bool × List Char
  | '-' :: rest => (true, rest)
  | '+' :: rest => (false, rest)
  | characters => (false, characters)

/-- The white space that numerals may have around them.  The information separators, which
are white space elsewhere, do not belong to it. -/
def isBlank (character : Char) : Bool :=
  Text.isBlank character && !(28 ≤ character.toNat && character.toNat ≤ 31)

/-- Ways in which a text writes no whole number. -/
inductive ReadError where
  | malformed
  | tooManyDigits (count : Nat)
  deriving DecidableEq, Repr, Inhabited

/-- A whole number with an optional sign and white space around it, in the decimal
digits of any script. -/
def readInt (text : List Char) : Except ReadError Int :=
  let (negative, characters) := signed (Text.trimBy isBlank text)
  match digitRun Text.digitValue? false characters with
  | none => .error .malformed
  | some digits =>
      if digitLimit < digits.length then .error (.tooManyDigits digits.length)
      else if negative then .ok (-(ofDigits digits : Int))
      else .ok (ofDigits digits : Int)

def int? (text : List Char) : Option Int := (readInt text).toOption

def takeDigits (characters : List Char) : List Nat × List Char :=
  ((characters.takeWhile Char.isDigit).map (fun digit => digit.toNat - 48),
    characters.dropWhile Char.isDigit)

/-- The exponent part of a decimal: absent, or a mark, an optional sign and at least
one digit, up to the end of the text. -/
def exponent? : List Char → Option Int
  | [] => some 0
  | mark :: rest =>
      if mark = 'e' ∨ mark = 'E' then
        let (negative, characters) := signed rest
        let (digits, beyond) := takeDigits characters
        if digits.isEmpty ∨ ¬ beyond.isEmpty then none
        else if negative then some (-(ofDigits digits : Int))
        else some (ofDigits digits : Int)
      else none

/-- An unsigned decimal: digits with an optional point among or around them, and an
optional exponent. -/
def decimal? (negative : Bool) (characters : List Char) : Option Binary64 :=
  let (whole, rest) := takeDigits characters
  let (fraction, tail) := match rest with
    | '.' :: rest => takeDigits rest
    | rest => ([], rest)
  if whole.isEmpty ∧ fraction.isEmpty then none
  else (exponent? tail).map fun exponent =>
    Binary64.ofDecimal negative (ofDigits (whole ++ fraction))
      (exponent - (fraction.length : Int))

/-- A number in ASCII: a decimal, an infinity or the undefined number, with an
optional sign and names in any case. -/
def ascii? (characters : List Char) : Option Binary64 :=
  let (negative, body) := signed characters
  let name := body.map Char.toLower
  if name = "inf".toList ∨ name = "infinity".toList then some (.infinite negative)
  else if name = "nan".toList then some .nan
  else decimal? negative body

/-- A text without its underscores, each of which must stand between two digits. -/
def withoutUnderscores : Bool → List Char → Option (List Char)
  | _, [] => some []
  | afterDigit, '_' :: rest =>
      match rest with
      | next :: _ =>
          if afterDigit && next.isDigit then withoutUnderscores false rest else none
      | [] => none
  | _, character :: rest =>
      (withoutUnderscores character.isDigit rest).map (character :: ·)

def toAsciiDigit (character : Char) : Char :=
  match Text.digitValue? character with
  | some value => Char.ofNat (48 + value)
  | none => character

def binary64? (text : List Char) : Option Binary64 :=
  let characters := (Text.trimBy isBlank text).map toAsciiDigit
  (withoutUnderscores false characters).bind ascii?

end Montage.Numeral
