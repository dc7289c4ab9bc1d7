import Montage.Numeric.Numeral
import Montage.Text.CharacterName

/-!
# Texts and numbers in literals

Texts in quotes with their escapes, and numbers without a sign.  Each reader takes its
value from the start of characters and says what follows.
-/

namespace Montage.Console.Literal

def isHexDigit (character : Char) : Bool := (Text.Percent.hexValue? character).isSome

def afterHex? : Nat → List Char → Option (List Char)
  | 0, characters => some characters
  | count + 1, digit :: rest =>
      if isHexDigit digit then afterHex? count rest else none
  | _ + 1, [] => none

structure TextForm where
  quote : Char
  /-- Whether three quotes begin and end the text, which may then hold line ends. -/
  isLong : Bool
  isRaw : Bool
  /-- Whether the text is made of bytes and so has characters of ASCII only. -/
  isBytes : Bool
  deriving DecidableEq, Repr, Inhabited

def TextForm.excludes (form : TextForm) (character : Char) : Bool :=
  form.isBytes && 127 < character.toNat

def isBeyond (digits : List Char) : Bool :=
  !("000".toList.isPrefixOf digits || "0010".toList.isPrefixOf digits)

def afterName? (characters : List Char) : Option (List Char) :=
  match characters with
  | '\x7b' :: rest =>
      match rest.dropWhile (· != '\x7d') with
      | _ :: beyond =>
          if Text.isCharacterName (rest.takeWhile (· != '\x7d')) then some beyond else none
      | [] => none
  | _ => none

/-- What follows an escape in a text, given what follows its backslash. -/
def afterEscape? (form : TextForm) : List Char → Option (List Char)
  | [] => none
  | character :: rest =>
      if form.excludes character then none
      else if form.isRaw then some rest
      else if character = 'x' then afterHex? 2 rest
      else if form.isBytes then some rest
      else if character = 'u' then afterHex? 4 rest
      else if character = 'U' then
        if isBeyond rest then none else afterHex? 8 rest
      else if character = 'N' then afterName? rest
      else some rest

/-- What follows the end of a text, given what follows its first quotes. -/
def afterText? (form : TextForm) : Nat → List Char → Option (List Char)
  | 0, _ => none
  | _ + 1, [] => none
  | fuel + 1, character :: rest =>
      if character = form.quote then
        if !form.isLong then some rest
        else match rest with
          | second :: third :: beyond =>
              if second = form.quote ∧ third = form.quote then some beyond
              else afterText? form fuel rest
          | _ => none
      else if character = '\\' then (afterEscape? form rest).bind (afterText? form fuel)
      else if character = '\n' ∧ !form.isLong then none
      else if form.excludes character then none
      else afterText? form fuel rest

/-- The words that may stand in front of the first quote of a text. -/
def textMarks : List String := ["", "r", "u", "b", "br", "rb"]

/-- A text at the start of characters: whether it is bytes, and what follows. -/
def takeText? (characters : List Char) : Option (Bool × List Char) :=
  let mark := (String.ofList (characters.takeWhile Char.isAlpha)).toLower
  if !textMarks.contains mark then none
  else match characters.dropWhile Char.isAlpha with
    | quote :: rest =>
        if quote = '"' ∨ quote = '\'' then
          let isBytes := mark.contains 'b'
          let form : TextForm := ⟨quote, false, mark.contains 'r', isBytes⟩
          let beyond := match rest with
            | second :: third :: inside =>
                if second = quote ∧ third = quote then
                  afterText? { form with isLong := true } (inside.length + 1) inside
                else afterText? form (rest.length + 1) rest
            | _ => afterText? form (rest.length + 1) rest
          beyond.map fun beyond => (isBytes, beyond)
        else none
    | [] => none

/-- Digits of a class with single underscores between them, which there may be none of,
and what follows.  An underscore may come first. -/
def takeRun (isDigit : Char → Bool) : List Char → List Char × List Char
  | [] => ([], [])
  | '_' :: digit :: rest =>
      if isDigit digit then
        let (digits, beyond) := takeRun isDigit rest
        (digit :: digits, beyond)
      else ([], '_' :: digit :: rest)
  | digit :: rest =>
      if isDigit digit then
        let (digits, beyond) := takeRun isDigit rest
        (digit :: digits, beyond)
      else ([], digit :: rest)

def takeDigits (isDigit : Char → Bool) (characters : List Char) :
    List Char × List Char :=
  match characters with
  | '_' :: _ => ([], characters)
  | _ => takeRun isDigit characters

def afterExponent (characters : List Char) : Bool × List Char :=
  match characters with
  | mark :: rest =>
      if mark = 'e' ∨ mark = 'E' then
        let unsigned := match rest with
          | '+' :: digits => digits
          | '-' :: digits => digits
          | digits => digits
        match takeDigits Char.isDigit unsigned with
        | ([], _) => (false, characters)
        | (_, beyond) => (true, beyond)
      else (false, characters)
  | [] => (false, [])

/-- What matters of a number without a sign. -/
inductive NumberKind where
  /-- A real number, which may be whole and too great to be added to others. -/
  | real (isVast : Bool)
  | imaginary
  deriving DecidableEq, Repr, Inhabited

/-- The least whole number that no finite number of double precision is near. -/
def vast : Nat := Nat.pow 2 1024 - Nat.pow 2 970

def wholeKind (base : Nat) (digits : List Char) : NumberKind :=
  .real (vast ≤ digits.foldl
    (fun number digit => base * number + (Text.Percent.hexValue? digit).getD 0) 0)

def takeBased? (base : Nat) (isDigit : Char → Bool) (characters : List Char) :
    Option (NumberKind × List Char) :=
  match takeRun isDigit characters with
  | ([], _) => none
  | (digits, beyond) => some (wholeKind base digits, beyond)

/-- A number in base ten at the start of characters. -/
def takeDecimal? (characters : List Char) : Option (NumberKind × List Char) :=
  let (whole, rest) := takeDigits Char.isDigit characters
  let (fraction, afterPoint, hasPoint) := match rest with
    | '.' :: beyond =>
        let (digits, beyond) := takeDigits Char.isDigit beyond
        (digits, beyond, true)
    | beyond => ([], beyond, false)
  if whole.isEmpty ∧ fraction.isEmpty then none
  else
    let (hasExponent, beyond) := afterExponent afterPoint
    match beyond with
    | 'j' :: beyond => some (.imaginary, beyond)
    | 'J' :: beyond => some (.imaginary, beyond)
    | _ =>
        -- Only whole numbers may neither begin with a zero nor have too many digits.
        if hasPoint || hasExponent then some (.real false, beyond)
        else if whole.all (· == '0') then some (.real false, beyond)
        else if whole.head? == some '0' then none
        else if Numeral.digitLimit < whole.length then none
        else some (wholeKind 10 whole, beyond)

/-- A number without a sign at the start of characters. -/
def takeNumber? (characters : List Char) : Option (NumberKind × List Char) :=
  match characters with
  | '0' :: mark :: rest =>
      if mark = 'x' ∨ mark = 'X' then takeBased? 16 isHexDigit rest
      else if mark = 'o' ∨ mark = 'O' then
        takeBased? 8 (fun digit => '0' ≤ digit && digit ≤ '7') rest
      else if mark = 'b' ∨ mark = 'B' then
        takeBased? 2 (fun digit => digit = '0' || digit = '1') rest
      else takeDecimal? characters
  | _ => takeDecimal? characters

end Montage.Console.Literal
