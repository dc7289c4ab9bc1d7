import Montage.Json.Value
import Montage.Text.Basic

/-!
# Writing JSON

The text of a document: members in order, a blank after commas and colons, ASCII
only, numbers in their shortest form.  For people to read, it takes several lines: every
element and every member has a line of its own, and characters beyond ASCII stand for
themselves.
-/

namespace Montage.Json

def unitEscape (unit : Nat) : List Char :=
  '\\' :: 'u' :: Text.hexadecimal 4 unit

def textCharacter (character : Char) : List Char :=
  let point := character.toNat
  if character = '"' ∨ character = '\\' then ['\\', character]
  else if character = '\n' then ['\\', 'n']
  else if character = '\r' then ['\\', 'r']
  else if character = '\t' then ['\\', 't']
  else if point = 8 then ['\\', 'b']
  else if point = 12 then ['\\', 'f']
  else if 32 ≤ point ∧ point < 127 then [character]
  else if point < 65536 then unitEscape point
  else unitEscape (55296 + (point - 65536) / 1024) ++
    unitEscape (56320 + (point - 65536) % 1024)

def quoted (text : String) : String :=
  String.ofList ('"' :: text.toList.flatMap textCharacter ++ ['"'])

def numberLayout : Decimal.Layout := ⟨-4, 15, 2, "Infinity", "NaN"⟩

mutual

def write : Json → String
  | .null => "null"
  | .boolean value => if value then "true" else "false"
  | .integer value => Decimal.ofInt value
  | .number value => Decimal.text numberLayout value
  | .text value => quoted value
  | .bytes content => quoted (Text.Utf8.decode content)
  | .array elements => "[" ++ ", ".intercalate (writeElements elements) ++ "]"
  | .object members => "\x7b" ++ ", ".intercalate (writeMembers members) ++ "\x7d"

def writeElements : List Json → List String
  | [] => []
  | element :: rest => write element :: writeElements rest

def writeMembers : List (String × Json) → List String
  | [] => []
  | (key, value) :: rest => (quoted key ++ ": " ++ write value) :: writeMembers rest

end

end Montage.Json

namespace Montage.Json.Indented

def textCharacter (character : Char) : List Char :=
  if 127 ≤ character.toNat then [character] else Json.textCharacter character

def quoted (text : String) : String :=
  String.ofList ('"' :: text.toList.flatMap textCharacter ++ ['"'])

def newLine (depth : Nat) : String :=
  String.ofList ('\n' :: List.replicate (2 * depth) ' ')

/-- Lines between brackets.  Without lines the brackets are next to each other. -/
def enclose (opening closing : String) (depth : Nat) (lines : List String) : String :=
  if lines.isEmpty then opening ++ closing
  else
    opening ++ newLine (depth + 1) ++ Text.join ("," ++ newLine (depth + 1)) lines ++
      newLine depth ++ closing

mutual

def write (depth : Nat) : Json → String
  | .text value => quoted value
  | .bytes content => quoted (Text.Utf8.decode content)
  | .array elements => enclose "[" "]" depth (writeElements (depth + 1) elements)
  | .object members => enclose "\x7b" "\x7d" depth (writeMembers (depth + 1) members)
  | .null => "null"
  | .boolean value => if value then "true" else "false"
  | .integer value => Decimal.ofInt value
  | .number value => Decimal.text numberLayout value

def writeElements (depth : Nat) : List Json → List String
  | [] => []
  | element :: rest => write depth element :: writeElements depth rest

def writeMembers (depth : Nat) : List (String × Json) → List String
  | [] => []
  | (key, value) :: rest =>
      (quoted key ++ ": " ++ write depth value) :: writeMembers depth rest

end

end Montage.Json.Indented
