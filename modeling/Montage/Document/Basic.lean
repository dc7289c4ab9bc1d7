import Montage.Json.Value

/-!
# Documents

JSON documents of values that are shown to others.  JSON has no infinite numbers, so
these are written as texts.
-/

namespace Montage.Document

def ofNumber : Binary64 → Json
  | .infinite false => .text "inf"
  | .infinite true => .text "-inf"
  | .nan => .text "nan"
  | value => .number value

/-- The document of a number that may be missing. -/
def ofNumber? (value : Option Binary64) : Json := (value.map ofNumber).getD .null

/-- The document of a text that may be missing. -/
def ofText? (value : Option String) : Json := (value.map .text).getD .null

/-- The document of a whole number that may be missing. -/
def ofInt? (value : Option Int) : Json := (value.map .integer).getD .null

def ofCount (value : Nat) : Json := .integer value

def ofTexts (values : List String) : Json := .array (values.map .text)

end Montage.Document
