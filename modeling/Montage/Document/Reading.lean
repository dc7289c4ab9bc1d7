import Montage.Json.Value

/-!
# Reading documents

The parts of a JSON document, taken by their keys.  A part that is missing, or is not of
the kind that is asked for, counts as empty.
-/

namespace Montage.Json

def field (document : Json) (key : String) : Json := (document.get? key).getD .null

def elements : Json → List Json
  | .array elements => elements
  | _ => []

def entries : Json → List (String × Json)
  | .object members => members
  | _ => []

def asText? : Json → Option String
  | .text value => some value
  | _ => none

def asText (document : Json) : String := document.asText?.getD ""

/-- The whole number that a document is.  Truth values count as one and zero. -/
def asWhole? : Json → Option Int
  | .integer value => some value
  | .boolean value => some (if value then 1 else 0)
  | _ => none

/-- The number that a document is.  Numbers that JSON does not have are texts. -/
def asNumber? : Json → Option Binary64
  | .integer value => some (Binary64.ofInt value)
  | .number value => some value
  | .boolean value => some (if value then 1 else 0)
  | .text "inf" => some (.infinite false)
  | .text "-inf" => some (.infinite true)
  | .text "nan" => some .nan
  | _ => none

def asNumber (document : Json) : Binary64 := document.asNumber?.getD .zero

def asFlag? : Json → Option Bool
  | .boolean value => some value
  | _ => none

section Keys

variable (document : Json) (key : String)

/-- The value of a key, if there is one that is not null. -/
def valueAt? : Option Json :=
  match document.field key with
  | .null => none
  | value => some value

def textAt? : Option String := (document.field key).asText?

def textAt : String := (document.field key).asText

def wholeAt? : Option Int := (document.field key).asWhole?

def numberAt? : Option Binary64 := (document.field key).asNumber?

def numberAt : Binary64 := (document.field key).asNumber

def flagAt : Bool := (document.field key).asFlag?.getD false

def elementsAt : List Json := (document.field key).elements

def textsAt : List String := (document.elementsAt key).map asText

def entriesAt : List (String × Json) := (document.field key).entries

end Keys

end Montage.Json
