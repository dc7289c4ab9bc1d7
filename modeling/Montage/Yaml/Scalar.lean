import Montage.Json.Value
import Montage.Numeric.Numeral
import Montage.Yaml.Tag

/-!
# Scalars

The values that scalars stand for under their tags.  A scalar that is not written the way
its tag asks for is a fault.
-/

namespace Montage.Yaml.Scalar

def digit? (character : Char) : Option Nat :=
  (Text.Percent.hexValue? character).or (Text.digitValue? character)

def withoutMark (base : Nat) : List Char → List Char
  | '0' :: letter :: rest =>
      let lower := letter.toLower
      if (base = 2 ∧ lower = 'b') ∨ (base = 8 ∧ lower = 'o') ∨ (base = 16 ∧ lower = 'x') then
        rest
      else '0' :: letter :: rest
  | characters => characters

/-- The number that characters write in a base, with a sign and the mark of the base in
front, if they have them. -/
def inBase? (base : Nat) (characters : List Char) : Option Int := do
  let (negative, bare) := Numeral.signed (Text.trimBy Numeral.isBlank characters)
  let digits ← (withoutMark base bare).mapM digit?
  if digits.isEmpty ∨ ¬ digits.all (· < base) then none
  else
    let size : Nat := digits.foldl (fun number digit => base * number + digit) 0
    some (if negative then -(size : Int) else size)

def inBase (base : Nat) (characters : List Char) : Except Fault Int :=
  match inBase? base characters with
  | some number => .ok number
  | none => .error (.badNumeral (String.ofList characters))

def decimal (characters : List Char) : Except Fault Int :=
  match Numeral.readInt characters with
  | .ok number => .ok number
  | .error .malformed => .error (.badNumeral (String.ofList characters))
  | .error (.tooManyDigits count) => .error (.tooManyDigits count)

def sexagesimal (fields : List Int) : Int :=
  fields.foldl (fun number field => 60 * number + field) 0

/-- The number that characters without a sign write in one of the notations of whole
numbers. -/
def magnitude (characters : List Char) : Except Fault Int :=
  match characters with
  | [] => .error .noCharacter
  | ['0'] => .ok 0
  | '0' :: 'b' :: digits => inBase 2 digits
  | '0' :: 'x' :: digits => inBase 16 digits
  | '0' :: digits => inBase 8 ('0' :: digits)
  | _ =>
      if characters.contains ':' then
        ((Text.splitBy (· == ':') characters).mapM decimal).map sexagesimal
      else decimal characters

def whole (characters : List Char) : Except Fault Int :=
  let (negative, bare) := Numeral.signed (characters.filter (· != '_'))
  (magnitude bare).map fun number => if negative then -number else number

def number (characters : List Char) : Except Fault Binary64 :=
  match Numeral.binary64? characters with
  | some value => .ok value
  | none => .error .badValue

/-- The sum of fields in base sixty, last field first, whose first one counts `unit`. -/
def sumFields (unit : Int) (sum : Binary64) : List Binary64 → Except Fault Binary64
  | [] => .ok sum
  | field :: rest =>
      match Binary64.ofInt unit with
      | .infinite _ => .error .tooLarge
      | weight => sumFields (60 * unit) (sum + field * weight) rest

/-- The binary64 number that characters without a sign write in one of the notations. -/
def fraction (characters : List Char) : Except Fault Binary64 :=
  if characters = ".inf".toList then .ok (.infinite false)
  else if characters = ".nan".toList then .ok .nan
  else if characters.contains ':' then do
    let fields ← (Text.splitBy (· == ':') characters).mapM number
    sumFields 1 0 fields.reverse
  else number characters

def float (characters : List Char) : Except Fault Binary64 :=
  let lower := (Text.lowercase (String.ofList (characters.filter (· != '_')))).toList
  if lower.isEmpty then .error .noCharacter
  else
    let (negative, bare) := Numeral.signed lower
    (fraction bare).map fun number => if negative then -number else number

def flag (text : String) : Except Fault Bool :=
  let word := Text.lowercase text
  if Tag.trueWords.contains word then .ok true
  else if Tag.falseWords.contains word then .ok false
  else .error .unknownWord

def sextet? (character : Char) : Option Nat :=
  if 'A' ≤ character ∧ character ≤ 'Z' then some (character.toNat - 65)
  else if 'a' ≤ character ∧ character ≤ 'z' then some (character.toNat - 71)
  else if character.isDigit then some (character.toNat + 4)
  else if character = '+' then some 62
  else if character = '/' then some 63
  else none

/-- The bytes that sextets stand for, the last of which may be padded. -/
def bytesOf : List Nat → List UInt8
  | first :: second :: third :: fourth :: rest =>
      UInt8.ofNat (4 * first + second / 16) :: UInt8.ofNat (16 * second + third / 4) ::
        UInt8.ofNat (64 * third + fourth) :: bytesOf rest
  | [first, second, third] =>
      [UInt8.ofNat (4 * first + second / 16), UInt8.ofNat (16 * second + third / 4)]
  | [first, second] => [UInt8.ofNat (4 * first + second / 16)]
  | _ => []

/-- The sextets up to the padding that ends them, of which so many came before. -/
def sextets : Nat → Nat → List Char → Option (List Nat)
  | count, _, [] => if count % 4 = 0 then some [] else none
  | count, padding, character :: rest =>
      if character = '=' then
        -- Padding in front of its place is passed over like any other character.
        if 2 ≤ count % 4 ∧ 4 ≤ count % 4 + padding + 1 then some []
        else sextets count (padding + 1) rest
      else match sextet? character with
        | some sextet => (sextets (count + 1) 0 rest).map (sextet :: ·)
        | none => sextets count padding rest

def binary (text : String) : Except Fault Json :=
  if text.toList.any fun character => 127 < character.toNat then .error .unreadableYaml
  else match sextets 0 0 text.toList with
    | none => .error .unreadableYaml
    | some digits => .ok (.bytes (bytesOf digits))

def timestamp (text : String) : Except Fault Json :=
  match Timestamp.read? (Text.withoutLineEnd text.toList) with
  | none => .error .notARecord
  | some timestamp => if timestamp.isValid then .ok (.array [.text text]) else .error .badValue

def value (tag : Tag) (text : String) : Except Fault Json :=
  match tag with
  | .null => .ok .null
  | .bool => (flag text).map .boolean
  | .int => (whole text.toList).map .integer
  | .float => (float text.toList).map .number
  | .binary => binary text
  | .timestamp => timestamp text
  | .str => .ok (.text text)
  | _ => .error .unreadableYaml

end Montage.Yaml.Scalar
