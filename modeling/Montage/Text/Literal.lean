import Montage.Text.Character
import Montage.Text.Table.UnprintableRanges

/-!
# Quoted literals

Text quoted for a message: between single quotes, or double quotes when it holds
single quotes only, with backslash escapes for what cannot be printed.
-/

namespace Montage.Text

def isUnprintable (character : Char) : Bool :=
  inRanges unprintableRanges character.toNat

/-- The lower-case hexadecimal digits of a number, at least `width` of them. -/
def hexadecimal (width number : Nat) : List Char :=
  let digits := Nat.toDigits 16 number
  List.replicate (width - digits.length) '0' ++ digits

def literalCharacter (quote character : Char) : List Char :=
  let point := character.toNat
  if character = quote ∨ character = '\\' then ['\\', character]
  else if character = '\n' then ['\\', 'n']
  else if character = '\r' then ['\\', 'r']
  else if character = '\t' then ['\\', 't']
  else if isUnprintable character then
    if point < 256 then '\\' :: 'x' :: hexadecimal 2 point
    else if point < 65536 then '\\' :: 'u' :: hexadecimal 4 point
    else '\\' :: 'U' :: hexadecimal 8 point
  else [character]

def literal (text : String) : String :=
  let characters := text.toList
  let quote := if characters.contains '\'' && !characters.contains '"' then '"' else '\''
  String.ofList (quote :: characters.flatMap (literalCharacter quote) ++ [quote])

def literalList (texts : List String) : String :=
  "[" ++ ", ".intercalate (texts.map literal) ++ "]"

end Montage.Text
