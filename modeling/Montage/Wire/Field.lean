import Montage.Json.Value
import Montage.Wire.Issue
import Montage.Wire.Numeral

/-!
# Fields of wire documents

Lenient readers for the values of fields, and the bounds and defaults that fields
have.
-/

namespace Montage.Wire

abbrev Reader (α : Type) := Json → Checked α

namespace Reader

/-- A reader of texts for bytes, which are refused if they do not stand for a text. -/
def ofBytes {α : Type} (complaint : String) (reader : String → Checked α)
    (content : List UInt8) : Checked α :=
  match Text.Utf8.text? content with
  | some value => reader value
  | none => .refuse complaint

def text : Reader String
  | .text value => .valid value
  | .bytes content => ofBytes
      "Input should be a valid string, unable to parse raw data as a unicode string" .valid
      content
  | _ => .refuse "Input should be a valid string"

def nonemptyText : Reader String := fun document => do
  let value ← text document
  if value.isEmpty then .refuse "String should have at least 1 character"
  else .valid value

def notANumber : String :=
  "Input should be a valid number, unable to parse string as a number"

def writtenNumber (value : String) : Checked Binary64 :=
  match Numeral.binary64? value.toList with
  | some number => .valid number
  | none => .refuse notANumber

/-- A binary64 number, also from a text, bytes, or a truth value. -/
def number : Reader Binary64
  | .number value => .valid value
  | .boolean flag => .valid (if flag then 1 else 0)
  | .integer value =>
      match Binary64.ofInt value with
      | .infinite _ => .refuse "Input should be a valid number"
      | converted => .valid converted
  | .text value => writtenNumber value
  | .bytes content => ofBytes notANumber writtenNumber content
  | _ => .refuse "Input should be a valid number"

def wholeBound : Rat := 9223372036854775808

def tooLong : String := "Unable to parse input string as an integer, exceeded maximum size"

def notWhole : String := "Input should be a valid integer, unable to parse string as an integer"

def writtenWhole (value : String) : Checked Int :=
  match Numeral.whole value.toList with
  | .whole number => .valid number
  | .unreadable => .refuse notWhole
  | .tooLong => .refuse tooLong

/-- A whole number, also from a text, bytes, a truth value, or a binary64 number without a
fraction. -/
def whole : Reader Int
  | .integer value => .valid value
  | .boolean flag => .valid (if flag then 1 else 0)
  | .number value =>
      match value.toRat with
      | .error _ => .refuse "Input should be a finite number"
      | .ok rational =>
          if rational.den ≠ 1 then .refuse
            "Input should be a valid integer, got a number with a fractional part"
          else if -wholeBound < rational ∧ rational < wholeBound then .valid rational.num
          else .refuse tooLong
  | .text value => writtenWhole value
  | .bytes content => ofBytes notWhole writtenWhole content
  | _ => .refuse "Input should be a valid integer"

def trueWords : List String := ["1", "on", "t", "true", "y", "yes"]

def falseWords : List String := ["0", "off", "f", "false", "n", "no"]

def fits (value : Int) : Bool :=
  -9223372036854775808 ≤ value && value ≤ 9223372036854775807

def unclear : String := "Input should be a valid boolean, unable to interpret input"

def writtenFlag (word : String) : Checked Bool :=
  if Text.lowercase word ∈ trueWords then .valid true
  else if Text.lowercase word ∈ falseWords then .valid false
  else .refuse unclear

/-- A truth value, also from a word or from one and zero. -/
def flag : Reader Bool
  | .boolean value => .valid value
  | .integer value =>
      if value = 1 then .valid true
      else if value = 0 then .valid false
      -- Other numbers are taken for words only if they are whole and not too large.
      else if fits value then .refuse unclear
      else .refuse wrong
  | .number value =>
      if value.equal 1 then .valid true
      else if value.equal 0 then .valid false
      else if isWhole value then .refuse unclear
      else .refuse wrong
  | .text word => writtenFlag word
  | .bytes content => ofBytes unclear writtenFlag content
  | _ => .refuse wrong
where
  /-- What is said of a value that cannot be a truth value. -/
  wrong : String := "Input should be a valid boolean"
  isWhole (value : Binary64) : Bool :=
    match value.toRat with
    | .ok rational => rational.den == 1 && -wholeBound < rational && rational < wholeBound
    | .error _ => false

def list {α : Type} (element : Reader α) : Reader (List α)
  | .array elements => Checked.all (elements.zipIdx.map fun (document, position) =>
      (element document).within (.index position))
  | _ => .refuse "Input should be a valid list"

def nullable {α : Type} (reader : Reader α) : Reader (Option α)
  | .null => .valid none
  | document => (reader document).map some

def positive (reader : Reader Binary64) : Reader Binary64 := fun document => do
  let value ← reader document
  if 0 < value then .valid value else .refuse "Input should be greater than 0"

/-- A number that is not below zero. -/
def notNegative (reader : Reader Binary64) : Reader Binary64 := fun document => do
  let value ← reader document
  if 0 ≤ value then .valid value
  else .refuse "Input should be greater than or equal to 0"

def positiveWhole : Reader Int := fun document => do
  let value ← whole document
  if 0 < value then .valid value else .refuse "Input should be greater than 0"

def wholeFrom (bound : Int) : Reader Int := fun document => do
  let value ← whole document
  let least := Decimal.ofInt bound
  if bound ≤ value then .valid value
  else .refuse s!"Input should be greater than or equal to {least}"

end Reader

abbrev Members := List (String × Json)

namespace Members

def optional {α : Type} (members : Members) (name : String) (reader : Reader α)
    (absent : α) : Checked α :=
  match Json.member? members name with
  | some document => (reader document).within (.key name)
  | none => .valid absent

def required {α : Type} (members : Members) (name : String) (reader : Reader α) :
    Checked α :=
  match Json.member? members name with
  | some document => (reader document).within (.key name)
  | none => (Checked.refuse "Field required").within (.key name)

/-- A field with two names, the first of which goes first. -/
def optionalAs {α : Type} (members : Members) (name other : String)
    (reader : Reader α) (absent : α) : Checked α :=
  if (Json.member? members name).isSome then members.optional name reader absent
  else members.optional other reader absent

end Members

end Montage.Wire
