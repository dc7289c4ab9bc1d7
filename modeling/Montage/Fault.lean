import Montage.Numeric.Decimal
import Montage.Text.Basic
import Montage.Text.Literal

/-!
# Faults

Failures that no rule of the library turns into an answer.  They end the operation
in which they occur; a server answers them as internal errors, and a job that meets
one fails as internal.
-/

namespace Montage

/-- Kinds of faults, as callers tell them apart. -/
inductive FaultKind where
  | overflow
  | value
  | type
  | attribute
  | key
  | index
  | recursion
  | json
  | yaml
  | markup
  | missingFile
  | existingFile
  | directory
  | notADirectory
  | system
  | crash
  deriving DecidableEq, Repr, Inhabited

/-- Causes of unforeseen failures. -/
inductive Fault where
  /-- An infinite number has no whole-number form. -/
  | infinite
  /-- A value that is no number has no whole-number form. -/
  | undefined
  /-- A whole number exceeds the binary64 range. -/
  | tooLarge
  | tooManyDigits (count : Nat)
  /-- A text does not write the whole number that it should. -/
  | badNumeral (text : String)
  /-- A text does not have the form of the value it should hold. -/
  | badValue
  | nullInPath
  /-- A value has a type that an operation does not take. -/
  | wrongType (complaint : String)
  /-- A value is not a record although its fields are asked for. -/
  | notARecord
  /-- A word is not among those that have a meaning. -/
  | unknownWord
  /-- A text is empty although its first character is asked for. -/
  | noCharacter
  | tooDeep
  /-- A text is not a JSON document. -/
  | unreadableJson (complaint : String)
  /-- A text is not a YAML document. -/
  | unreadableYaml
  /-- The style tags of a message do not fit together. -/
  | badMarkup (complaint : String)
  | missingFile (name : String)
  | existingFile
  | directory
  | notADirectory
  | system
  | crash (message : String)
  deriving DecidableEq, Repr, Inhabited

namespace Fault

def kind : Fault → FaultKind
  | .infinite => .overflow
  | .undefined => .value
  | .tooLarge => .overflow
  | .tooManyDigits _ => .value
  | .badNumeral _ => .value
  | .badValue => .value
  | .nullInPath => .value
  | .wrongType _ => .type
  | .notARecord => .attribute
  | .unknownWord => .key
  | .noCharacter => .index
  | .tooDeep => .recursion
  | .unreadableJson _ => .json
  | .unreadableYaml => .yaml
  | .badMarkup _ => .markup
  | .missingFile _ => .missingFile
  | .existingFile => .existingFile
  | .directory => .directory
  | .notADirectory => .notADirectory
  | .system => .system
  | .crash _ => .crash

def shownLength : Nat := 200

def message : Fault → String
  | .infinite => "cannot convert float infinity to integer"
  | .undefined => "cannot convert float NaN to integer"
  | .tooLarge => "int too large to convert to float"
  | .tooManyDigits count =>
      let digits := Decimal.ofInt count
      "Exceeds the limit (4300 digits) for integer string conversion: value has " ++
        digits ++ " digits; use sys.set_int_max_str_digits() to increase the limit"
  | .badNumeral text =>
      "invalid literal for int() with base 10: " ++
        Text.start shownLength (Text.literal text)
  | .badValue => "invalid value"
  | .nullInPath => "embedded null byte"
  | .wrongType complaint => complaint
  | .notARecord => "not a record"
  | .unknownWord => "unknown word"
  | .noCharacter => "string index out of range"
  | .tooDeep => "maximum recursion depth exceeded"
  | .unreadableJson complaint => complaint
  | .unreadableYaml => "unreadable YAML"
  | .badMarkup complaint => complaint
  | .missingFile name => name
  | .existingFile => "a file and no directory"
  | .directory => "a directory and no file"
  | .notADirectory => "a path through a file"
  | .system => "file system error"
  | .crash message => message

/-- The fault of a number without a whole-number form. -/
def ofNumeric : NumericError → Fault
  | .overflow => .infinite
  | .undefined => .undefined

end Fault

end Montage
