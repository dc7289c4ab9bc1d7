import Montage.Numeric.Numeral
import Montage.Text.Percent
import Montage.Yaml.Timestamp

/-!
# Tags

What kind of value a node stands for.  Scalars without quotes and tags have the tag of the
notation that they are written in.
-/

namespace Montage.Yaml

/-- Tags of nodes. -/
inductive Tag where
  | null
  | bool
  | int
  | float
  | binary
  | timestamp
  | omap
  | pairs
  | set
  | str
  | seq
  | map
  | merge
  | value
  | other
  deriving DecidableEq, Repr, Inhabited

def standardStart : String := "tag:yaml.org,2002:"

def standardHandles : List (String × String) := [("!", "!"), ("!!", standardStart)]

namespace Tag

def names : List (String × Tag) := [
  ("null", .null), ("bool", .bool), ("int", .int), ("float", .float), ("binary", .binary),
  ("timestamp", .timestamp), ("omap", .omap), ("pairs", .pairs), ("set", .set),
  ("str", .str), ("seq", .seq), ("map", .map), ("merge", .merge), ("value", .value)]

def ofName (name : String) : Tag :=
  match Text.dropStart? standardStart.toList name.toList with
  | some bare => (names.lookup (String.ofList bare)).getD .other
  | none => .other

def isCollection (tag : Tag) : Bool := tag ∈ [omap, pairs, set, seq, map]

def nullWords : List String := ["~", "null", "Null", "NULL"]

def trueWords : List String := [
  "yes", "Yes", "YES", "true", "True", "TRUE", "on", "On", "ON"]

def falseWords : List String := [
  "no", "No", "NO", "false", "False", "FALSE", "off", "Off", "OFF"]

def infinityWords : List String := [".inf", ".Inf", ".INF"]

def undefinedWords : List String := [".nan", ".NaN", ".NAN"]

def isDigitOrLine (character : Char) : Bool := character.isDigit || character = '_'

def unsigned (characters : List Char) : List Char := (Numeral.signed characters).2

def isExponent : List Char → Bool
  | [] => true
  | mark :: sign :: digits =>
      (mark = 'e' || mark = 'E') && (sign = '+' || sign = '-') &&
        !digits.isEmpty && digits.all Char.isDigit
  | _ => false

/-- Whether characters are a field of a number in base sixty but the first one. -/
def isField : List Char → Bool
  | [digit] => digit.isDigit
  | [tens, digit] => '0' ≤ tens && tens ≤ '5' && digit.isDigit
  | _ => false

def areFields (characters : List Char) : Bool :=
  match Text.splitBy (· == ':') characters with
  | first :: second :: rest => first.isEmpty && (second :: rest).all isField
  | _ => false

/-- Whether a point with its fraction and exponent follows a whole part that starts with a
digit. -/
def isPointed (characters : List Char) : Bool :=
  characters.head?.any Char.isDigit &&
    match characters.dropWhile isDigitOrLine with
    | '.' :: rest => isExponent (rest.dropWhile isDigitOrLine)
    | _ => false

def isFraction : List Char → Bool
  | '.' :: digit :: rest => digit.isDigit && isExponent (rest.dropWhile isDigitOrLine)
  | _ => false

def isSexagesimalFraction (characters : List Char) : Bool :=
  let rest := characters.dropWhile isDigitOrLine
  characters.head?.any Char.isDigit && areFields (rest.takeWhile (· != '.')) &&
    match rest.dropWhile (· != '.') with
    | '.' :: fraction => fraction.all isDigitOrLine
    | _ => false

def isFloat (characters : List Char) : Bool :=
  let bare := unsigned characters
  isPointed bare || isFraction characters || isSexagesimalFraction bare ||
    infinityWords.contains (String.ofList bare) ||
    undefinedWords.contains (String.ofList characters)

def areDigits (isDigit : Char → Bool) (characters : List Char) : Bool :=
  !characters.isEmpty && characters.all fun character => isDigit character || character = '_'

/-- Whether characters without a sign write a whole number. -/
def isMagnitude : List Char → Bool
  | ['0'] => true
  | '0' :: 'b' :: digits => areDigits (fun digit => digit = '0' || digit = '1') digits
  | '0' :: 'x' :: digits =>
      areDigits (fun digit => (Text.Percent.hexValue? digit).isSome) digits
  | '0' :: digits => areDigits (fun digit => '0' ≤ digit && digit ≤ '7') digits
  | characters =>
      let rest := characters.dropWhile isDigitOrLine
      characters.head?.any Char.isDigit && (rest.isEmpty || areFields rest)

def isInt (characters : List Char) : Bool := isMagnitude (unsigned characters)

def markWords : List String := ["!", "&", "*"]

def ofNotation (characters : List Char) : Tag :=
  let word := String.ofList characters
  if trueWords.contains word || falseWords.contains word then .bool
  else if isFloat characters then .float
  else if isInt characters then .int
  else if word = "<<" then .merge
  else if nullWords.contains word then .null
  else if Timestamp.isPlain characters then .timestamp
  else if word = "=" then .value
  else if markWords.contains word then .other
  else .str

/-- The tag of a scalar without quotes, of which an empty one is null.  A line feed at the
end does not count. -/
def ofPlain (text : String) : Tag :=
  if text.isEmpty then .null else ofNotation (Text.withoutLineEnd text.toList)

end Tag

end Montage.Yaml
