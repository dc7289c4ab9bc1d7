import Montage.Numeric.Decimal
import Montage.Text.Literal
import Montage.Text.Utf8

/-!
# JSON documents

A document keeps whole numbers and binary64 numbers apart and its members in the
order of their first appearance.
-/

namespace Montage

/-- JSON documents. -/
inductive Json where
  | null
  | boolean (value : Bool)
  | integer (value : Int)
  | number (value : Binary64)
  | text (value : String)
  /-- Bytes, which documents in other notations may hold. -/
  | bytes (content : List UInt8)
  | array (elements : List Json)
  | object (members : List (String × Json))
  deriving Inhabited

namespace Json

/-- The member list after a key is given a value. -/
def setMember (members : List (String × Json)) (key : String) (value : Json) :
    List (String × Json) :=
  -- A key that is present keeps its place.
  if members.any (·.1 == key) then
    members.map fun member => if member.1 = key then (key, value) else member
  else members ++ [(key, value)]

def member? (members : List (String × Json)) (key : String) : Option Json :=
  members.lookup key

def get? (document : Json) (key : String) : Option Json :=
  match document with
  | .object members => member? members key
  | _ => none

/-- Whether a document counts as absent: null, false, zero, or empty. -/
def isAbsent : Json → Bool
  | .null => true
  | .boolean value => !value
  | .integer value => value == 0
  | .number value => value.equal 0
  | .text value => value.isEmpty
  | .bytes content => content.isEmpty
  | .array elements => elements.isEmpty
  | .object members => members.isEmpty

def typeName : Json → String
  | .null => "NoneType"
  | .boolean _ => "bool"
  | .integer _ => "int"
  | .number _ => "float"
  | .text _ => "str"
  | .bytes _ => "bytes"
  | .array _ => "list"
  | .object _ => "dict"

mutual

/-- A document as it reads inside a message, with texts as literals. -/
def literal : Json → String
  | .null => "None"
  | .boolean value => if value then "True" else "False"
  | .integer value => Decimal.ofInt value
  | .number value => Decimal.ofBinary64 value
  | .text value => Text.literal value
  | .bytes content => Text.literal (Text.Utf8.decode content)
  | .array elements => "[" ++ ", ".intercalate (literals elements) ++ "]"
  | .object members => "\x7b" ++ ", ".intercalate (literalMembers members) ++ "\x7d"

def literals : List Json → List String
  | [] => []
  | element :: rest => literal element :: literals rest

def literalMembers : List (String × Json) → List String
  | [] => []
  | (key, value) :: rest =>
      (Text.literal key ++ ": " ++ literal value) :: literalMembers rest

end

mutual

def isFinite : Json → Bool
  | .number value => value.toRat?.isSome
  | .array elements => areFinite elements
  | .object members => haveFinite members
  | _ => true

def areFinite : List Json → Bool
  | [] => true
  | element :: rest => isFinite element && areFinite rest

def haveFinite : List (String × Json) → Bool
  | [] => true
  | (_, value) :: rest => isFinite value && haveFinite rest

end

/-- A document as it reads in a message of its own, where a text stands for itself. -/
def display : Json → String
  | .text value => value
  | document => literal document

end Json

end Montage
