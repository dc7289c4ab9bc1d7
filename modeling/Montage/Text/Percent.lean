import Montage.Text.Basic
import Montage.Text.Utf8

/-!
# Percent encoding

Bytes written as a percent sign and two hexadecimal digits, as in addresses.
-/

namespace Montage.Text.Percent

def hexDigits : List Char := "0123456789ABCDEF".toList

def encodeByte (byte : UInt8) : List Char :=
  ['%', hexDigits.getD (byte.toNat / 16) '0', hexDigits.getD (byte.toNat % 16) '0']

def isPlain (character : Char) : Bool :=
  character.isAlphanum || "_.-~/".toList.contains character

/-- A text in which only some characters stand for themselves. -/
def encodeBut (isKept : Char → Bool) (text : String) : String :=
  String.ofList (text.toList.flatMap fun character =>
    if isKept character then [character]
    else (Utf8.encode (String.ofList [character])).flatMap encodeByte)

def encode (text : String) : String := encodeBut isPlain text

/-- The length of characters in percent encoding, if only some stand for themselves. -/
def length (isKept : Char → Bool) (characters : List Char) : Nat :=
  (characters.map fun character =>
    if isKept character then 1 else 3 * character.utf8Size).foldr (· + ·) 0

def hexValue? (character : Char) : Option Nat :=
  if character.isDigit then some (character.toNat - 48)
  else if 'a' ≤ character ∧ character ≤ 'f' then some (character.toNat - 87)
  else if 'A' ≤ character ∧ character ≤ 'F' then some (character.toNat - 55)
  else none

/-- The bytes of a text in percent encoding. -/
def decodeBytes : List Char → List UInt8
  | [] => []
  | '%' :: first :: second :: rest =>
      match hexValue? first, hexValue? second with
      | some high, some low => UInt8.ofNat (high * 16 + low) :: decodeBytes rest
      -- A percent sign without two digits stands for itself.
      | _, _ => 37 :: decodeBytes (first :: second :: rest)
  | character :: rest => Utf8.encode (String.ofList [character]) ++ decodeBytes rest

def decode (text : String) : String :=
  Utf8.decode (decodeBytes text.toList)

end Montage.Text.Percent
