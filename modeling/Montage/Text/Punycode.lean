import Montage.Text.Character

/-!
# Punycode

Text of any script written with letters and digits of ASCII.  The ASCII characters of a text
come first; the others are told in the order of their code points, each by its distance from
the one before, as a number whose digits say where it ends.
-/

namespace Montage.Text.Punycode

def digit (value : Nat) : Char :=
  Char.ofNat (if value < 26 then 97 + value else 22 + value)

def digitValue? (character : Char) : Option Nat :=
  let lower := character.toLower
  if lower.isLower then some (lower.toNat - 97)
  else if lower.isDigit then some (lower.toNat - 22)
  else none

def threshold (place bias : Nat) : Nat :=
  max 1 (min 26 (36 * (place + 1) - bias))

theorem threshold_bounds (place bias : Nat) :
    1 ≤ threshold place bias ∧ threshold place bias ≤ 26 := by
  unfold threshold
  omega

/-- The bias that follows from a number that was scaled down, after so many steps. -/
def settle (steps delta : Nat) : Nat :=
  if 455 < delta then settle (steps + 1) (delta / 35)
  else 36 * steps + 36 * delta / (delta + 38)
termination_by delta
decreasing_by omega

/-- The bias after a number, which was the first one or not, when so many characters are
known. -/
def adapt (delta : Nat) (isFirst : Bool) (count : Nat) : Nat :=
  let scaled := if isFirst then delta / 700 else delta / 2
  settle 0 (scaled + scaled / count)

def encodeNumber (bias place number : Nat) : List Char :=
  let limit := threshold place bias
  if number < limit then [digit number]
  else
    digit (limit + (number - limit) % (36 - limit)) ::
      encodeNumber bias (place + 1) ((number - limit) / (36 - limit))
termination_by number
decreasing_by
  have bounds := threshold_bounds place bias
  have smaller := Nat.div_le_self (number - threshold place bias) (36 - threshold place bias)
  omega

/-- What is written of a text, and what the next number depends on. -/
structure Encoding where
  written : List Char := []
  delta : Nat := 0
  bias : Nat := 72
  count : Nat
  deriving DecidableEq, Repr, Inhabited

/-- The encoding after one look at a character, when the characters with a code point are
told. -/
def Encoding.pass (ascii point : Nat) (encoding : Encoding) (character : Char) : Encoding :=
  if character.toNat < point then { encoding with delta := encoding.delta + 1 }
  else if character.toNat = point then
    ⟨encoding.written ++ encodeNumber encoding.bias 0 encoding.delta, 0,
      adapt encoding.delta (encoding.count = ascii) (encoding.count + 1), encoding.count + 1⟩
  else encoding

/-- The numbers for the characters of a text from a code point on, of which there are those
given. -/
def encodeFrom (text : List Char) (ascii : Nat) :
    Nat → Encoding → List Nat → List Char
  | _, encoding, [] => encoding.written
  | next, encoding, point :: points =>
      let delta := encoding.delta + (point - next) * (encoding.count + 1)
      let passed := text.foldl (Encoding.pass ascii point) { encoding with delta }
      encodeFrom text ascii (point + 1) { passed with delta := passed.delta + 1 } points

def encode (text : List Char) : List Char :=
  let (ascii, others) := text.partition fun character => character.toNat < 128
  let points := ((others.map Char.toNat).mergeSort (· ≤ ·)).eraseDups
  let start := if ascii.isEmpty then [] else ascii ++ ['-']
  start ++ encodeFrom text ascii.length 128 { count := ascii.length } points

/-- The number at the start of digits from a place on, where a digit counts so much, and
what follows it. -/
def decodeNumber? (bias : Nat) : Nat → Nat → List Char → Option (Nat × List Char)
  | _, _, [] => none
  | place, weight, character :: rest => do
      let value ← digitValue? character
      let limit := threshold place bias
      if value < limit then some (value * weight, rest)
      else
        let (more, beyond) ← decodeNumber? bias (place + 1) (weight * (36 - limit)) rest
        some (value * weight + more, beyond)

/-- The text that numbers complete, given the known characters, the place and the code point
after the last one told. -/
def decodeFrom? : Nat → Nat → Bool → List Char → Nat → Nat → List Char → Option (List Char)
  | _, _, _, known, _, _, [] => some known
  | 0, _, _, _, _, _, _ => none
  | fuel + 1, bias, isFirst, known, place, point, digits => do
      let (delta, rest) ← decodeNumber? bias 0 1 digits
      let count := known.length + 1
      let point := point + (place + delta) / count
      let place := (place + delta) % count
      if point.isValidChar then
        let known := known.take place ++ Char.ofNat point :: known.drop place
        decodeFrom? fuel (adapt delta isFirst count) false known (place + 1) point rest
      else none

/-- The text with a form in ASCII.  Its ASCII characters stand before the last dash. -/
def decode? (form : List Char) : Option (List Char) :=
  let digits := (form.reverse.takeWhile (· != '-')).reverse
  let known := form.take (form.length - digits.length - 1)
  decodeFrom? form.length 72 true known 0 128 digits

end Montage.Text.Punycode
