import Montage.Fault
import Montage.Json.Value
import Montage.Numeric.Numeral

/-!
# Reading JSON

A strict reader, except that it also takes the three special numbers by name and
lets the last of several equal keys win.  Documents may be nested only so deeply, and
whole numbers may have only so many digits.  Recursion is bounded by the length of the
text, which every nested document shortens.
-/

namespace Montage.Json

/-- What is wrong at a place of a text. -/
inductive Complaint where
  | value
  | propertyName
  | colon
  | comma
  | beyondEnd
  | unterminated
  | control
  | escape
  | unicodeEscape
  | mark
  deriving DecidableEq, Repr, Inhabited

def Complaint.message : Complaint → String
  | .value => "Expecting value"
  | .propertyName => "Expecting property name enclosed in double quotes"
  | .colon => "Expecting ':' delimiter"
  | .comma => "Expecting ',' delimiter"
  | .beyondEnd => "Extra data"
  | .unterminated => "Unterminated string starting at"
  | .control => "Invalid control character at"
  | .escape => "Invalid \\escape"
  | .unicodeEscape => "Invalid \\uXXXX escape"
  | .mark => "Unexpected UTF-8 BOM (decode using utf-8-sig)"

/-- Reasons why a text holds no document that can be read. -/
inductive ReadError where
  /-- The text has another form, first noticed before so many of its last characters. -/
  | malformed (complaint : Complaint) (left : Nat)
  | tooManyDigits (count : Nat)
  | tooDeep
  deriving DecidableEq, Repr, Inhabited

def place (text : List Char) (position : Nat) : String :=
  let before := text.take position
  let line := Decimal.ofInt (before.count '\n' + 1)
  let column := Decimal.ofInt ((before.reverse.takeWhile (· != '\n')).length + 1)
  let index := Decimal.ofInt position
  s!"line {line} column {column} (char {index})"

def ReadError.fault (text : String) : ReadError → Fault
  | .malformed complaint left =>
      let characters := text.toList
      .unreadableJson
        (complaint.message ++ ": " ++ place characters (characters.length - left))
  | .tooManyDigits count => .tooManyDigits count
  | .tooDeep => .tooDeep

/-- The number of arrays and objects that may be open at a time. -/
def depthLimit : Nat := 985

def isBlank (character : Char) : Bool :=
  character = ' ' || character = '\t' || character = '\n' || character = '\r'

def skipBlanks (characters : List Char) : List Char :=
  characters.dropWhile isBlank

/-- The value of four hexadecimal digits, and the rest. -/
def readUnit? : List Char → Option (Nat × List Char)
  | first :: second :: third :: fourth :: rest =>
      let digit? (character : Char) : Option Nat :=
        if character.isDigit then some (character.toNat - 48)
        else if 'a' ≤ character ∧ character ≤ 'f' then some (character.toNat - 87)
        else if 'A' ≤ character ∧ character ≤ 'F' then some (character.toNat - 55)
        else none
      match digit? first, digit? second, digit? third, digit? fourth with
      | some a, some b, some c, some d =>
          some (((a * 16 + b) * 16 + c) * 16 + d, rest)
      | _, _, _, _ => none
  | _ => none

def simpleEscape? (letter : Char) : Option Char :=
  match letter with
  | '"' => some '"'
  | '\\' => some '\\'
  | '/' => some '/'
  | 'b' => some (Char.ofNat 8)
  | 'f' => some (Char.ofNat 12)
  | 'n' => some '\n'
  | 'r' => some '\r'
  | 't' => some '\t'
  | _ => none

/-- The character of a Unicode escape after its mark.  Half a surrogate pair gives the
replacement character. -/
def readEscape? (characters : List Char) : Option (Char × List Char) :=
  (readUnit? characters).map fun (unit, rest) =>
    if 55296 ≤ unit ∧ unit < 56320 then
      match rest with
      | '\\' :: 'u' :: more =>
          match readUnit? more with
          | some (low, beyond) =>
              -- A pair that ends the text is not put together.
              if 56320 ≤ low ∧ low < 57344 ∧ !beyond.isEmpty then
                (Char.ofNat (65536 + (unit - 55296) * 1024 + (low - 56320)), beyond)
              else (Char.ofNat 65533, rest)
          | none => (Char.ofNat 65533, rest)
      | _ => (Char.ofNat 65533, rest)
    else if 56320 ≤ unit ∧ unit < 57344 then (Char.ofNat 65533, rest)
    else (Char.ofNat unit, rest)

/-- The character of an escape after its backslash, and what follows it. -/
def readEscaped (start : Nat) : List Char → Except ReadError (Char × List Char)
  | [] => .error (.malformed .unterminated start)
  | 'u' :: unit =>
      match readEscape? unit with
      | some (escaped, beyond) =>
          if unit.length ≤ 4 then .error (.malformed .unicodeEscape (unit.length + 1))
          else .ok (escaped, beyond)
      | none => .error (.malformed .unicodeEscape (unit.length + 1))
  | letter :: beyond =>
      match simpleEscape? letter with
      | some escaped => .ok (escaped, beyond)
      | none => .error (.malformed .escape (beyond.length + 2))

/-- The characters of a text up to its closing quote, and what follows the quote.  A text
without one is malformed from its start on, which came before so many characters. -/
def readInside (start : Nat) : Nat → List Char → Except ReadError (List Char × List Char)
  | 0, _ => .error (.malformed .unterminated start)
  | _, [] => .error (.malformed .unterminated start)
  | fuel + 1, character :: rest => do
      if character = '"' then .ok ([], rest)
      else if character = '\\' then
        let (escaped, beyond) ← readEscaped start rest
        let (read, after) ← readInside start fuel beyond
        .ok (escaped :: read, after)
      else if character.toNat < 32 then .error (.malformed .control (rest.length + 1))
      else
        let (read, after) ← readInside start fuel rest
        .ok (character :: read, after)

/-- A number: whole, unless a fraction or an exponent follows. -/
def readNumber (characters : List Char) : Except ReadError (Json × List Char) :=
  let (negative, body) := match characters with
    | '-' :: rest => (true, rest)
    | rest => (false, rest)
  let (whole, rest) := Numeral.takeDigits body
  let leadingZero := match whole with
    | 0 :: _ :: _ => true
    | _ => false
  if whole.isEmpty then .error (.malformed .value characters.length)
  else if leadingZero then .ok (.integer 0, body.drop 1)
  else
    let (fraction, afterFraction) := match rest with
      | '.' :: more =>
          let (digits, beyond) := Numeral.takeDigits more
          if digits.isEmpty then ([], rest) else (digits, beyond)
      | _ => ([], rest)
    let (exponent, beyond) : Option Int × List Char := match afterFraction with
      | mark :: more =>
          if mark = 'e' ∨ mark = 'E' then
            let (negativeExponent, unsigned) := Numeral.signed more
            let (digits, after) := Numeral.takeDigits unsigned
            if digits.isEmpty then (none, afterFraction)
            else
              let magnitude : Int := Numeral.ofDigits digits
              (some (if negativeExponent then -magnitude else magnitude), after)
          else (none, afterFraction)
      | [] => (none, afterFraction)
    if fraction.isEmpty ∧ exponent.isNone then
      if Numeral.digitLimit < whole.length then .error (.tooManyDigits whole.length)
      else
        let value : Int := Numeral.ofDigits whole
        .ok (.integer (if negative then -value else value), beyond)
    else
      let value := Binary64.ofDecimal negative
        (Numeral.ofDigits (whole ++ fraction))
        (exponent.getD 0 - (fraction.length : Int))
      .ok (.number value, beyond)

def words : List (List Char × Json) := [
  ("null".toList, .null), ("true".toList, .boolean true),
  ("false".toList, .boolean false), ("NaN".toList, .number .nan),
  ("Infinity".toList, .number (.infinite false)),
  ("-Infinity".toList, .number (.infinite true))]

def readWord? (characters : List Char) : Option (Json × List Char) :=
  words.findSome? fun (word, document) =>
    (Text.dropStart? word characters).map (document, ·)

def readAtom (characters : List Char) : Except ReadError (Json × List Char) :=
  match readWord? characters with
  | some read => .ok read
  | none => readNumber characters

def readText (characters : List Char) : Except ReadError (String × List Char) := do
  let (read, after) ← readInside (characters.length + 1) (characters.length + 1) characters
  .ok (String.ofList read, after)

mutual

/-- A document at the start of a list, and what follows it. -/
def readValue : Nat → Nat → List Char → Except ReadError (Json × List Char)
  | 0, _, characters => .error (.malformed .value characters.length)
  | fuel + 1, depth, characters =>
      match characters, depth with
      | '"' :: rest, _ => do
          let (read, after) ← readText rest
          .ok (.text read, after)
      -- The depth counts the arrays and objects that may still be opened.
      | '[' :: _, 0 => .error .tooDeep
      | '[' :: rest, depth + 1 =>
          match skipBlanks rest with
          | ']' :: after => .ok (.array [], after)
          | inside => do
              let (elements, after) ← readElements fuel depth inside
              .ok (.array elements, after)
      | '\x7b' :: _, 0 => .error .tooDeep
      | '\x7b' :: rest, depth + 1 =>
          match skipBlanks rest with
          | '\x7d' :: after => .ok (.object [], after)
          | inside => do
              let (members, after) ← readMembers fuel depth [] inside
              .ok (.object members, after)
      | _, _ => readAtom characters

/-- The elements of an array up to its closing bracket, and what follows it. -/
def readElements : Nat → Nat → List Char → Except ReadError (List Json × List Char)
  | 0, _, characters => .error (.malformed .value characters.length)
  | fuel + 1, depth, characters => do
      let (element, rest) ← readValue fuel depth characters
      match skipBlanks rest with
      | ']' :: after => .ok ([element], after)
      | ',' :: more =>
          let (elements, after) ← readElements fuel depth (skipBlanks more)
          .ok (element :: elements, after)
      | other => .error (.malformed .comma other.length)

/-- The members of an object up to its closing brace, added to those already read,
and what follows it. -/
def readMembers : Nat → Nat → List (String × Json) → List Char →
    Except ReadError (List (String × Json) × List Char)
  | 0, _, _, characters => .error (.malformed .value characters.length)
  | fuel + 1, depth, members, characters =>
      match characters with
      | '"' :: rest => do
          let (key, afterKey) ← readText rest
          match skipBlanks afterKey with
          | ':' :: beforeValue =>
              let (value, afterValue) ← readValue fuel depth (skipBlanks beforeValue)
              let extended := setMember members key value
              match skipBlanks afterValue with
              | '\x7d' :: after => .ok (extended, after)
              | ',' :: more => readMembers fuel depth extended (skipBlanks more)
              | other => .error (.malformed .comma other.length)
          | other => .error (.malformed .colon other.length)
      | other => .error (.malformed .propertyName other.length)

end

/-- The document that a text holds, when it holds exactly one and so many arrays and
objects are open at most. -/
def readWithin (depth : Nat) (text : String) : Except ReadError Json := do
  let characters := text.toList
  if characters.head? = some '\uFEFF' then .error (.malformed .mark characters.length)
  else
    let (document, rest) ←
      readValue (2 * characters.length + 2) depth (skipBlanks characters)
    let beyond := skipBlanks rest
    if beyond.isEmpty then .ok document else .error (.malformed .beyondEnd beyond.length)

def read (text : String) : Except Fault Json :=
  (readWithin depthLimit text).mapError (ReadError.fault text)

end Montage.Json
