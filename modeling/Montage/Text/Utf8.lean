/-!
# UTF-8

Bytes read as text.  A longest start of a character that the bytes do not continue is
replaced as a whole, and so is a byte that starts no character.
-/

namespace Montage.Text.Utf8

def replacement : Char := '\uFFFD'

/-- What the first byte of a character tells: how many bytes follow it, its part of the
code point, and the bounds of the byte after it. -/
structure Lead where
  following : Nat
  code : Nat
  low : Nat
  high : Nat
  deriving DecidableEq, Repr, Inhabited

/-- What a byte tells as the first one of a character; none if it is not one. -/
def Lead.ofByte? (byte : Nat) : Option Lead :=
  -- The bounds of the next byte keep out longer forms than are needed, surrogates, and what is
  -- beyond all code points.
  if byte < 0x80 then some ⟨0, byte, 0x80, 0xBF⟩
  else if byte < 0xC2 then none
  else if byte < 0xE0 then some ⟨1, byte - 0xC0, 0x80, 0xBF⟩
  else if byte = 0xE0 then some ⟨2, 0x0, 0xA0, 0xBF⟩
  else if byte = 0xED then some ⟨2, 0xD, 0x80, 0x9F⟩
  else if byte < 0xF0 then some ⟨2, byte - 0xE0, 0x80, 0xBF⟩
  else if byte = 0xF0 then some ⟨3, 0, 0x90, 0xBF⟩
  else if byte < 0xF4 then some ⟨3, byte - 0xF0, 0x80, 0xBF⟩
  else if byte = 0xF4 then some ⟨3, 4, 0x80, 0x8F⟩
  else none

/-- A character of which so many bytes are still to come, the next one between bounds,
and the bytes after it. -/
def finish : Nat → Nat → Nat → Nat → List UInt8 → Char × List UInt8
  | _, _, 0, code, bytes => (Char.ofNat code, bytes)
  | _, _, _ + 1, _, [] => (replacement, [])
  | low, high, following + 1, code, byte :: rest =>
      if low ≤ byte.toNat ∧ byte.toNat ≤ high then
        finish 0x80 0xBF following (64 * code + (byte.toNat - 0x80)) rest
      else (replacement, byte :: rest)

theorem finish_length_le (low high following code : Nat) (bytes : List UInt8) :
    (finish low high following code bytes).2.length ≤ bytes.length := by
  induction bytes generalizing low high following code with
  | nil => cases following <;> simp [finish]
  | cons byte rest ih =>
    cases following with
    | zero => simp [finish]
    | succ following =>
      unfold finish
      split
      · exact Nat.le_trans (ih ..) (Nat.le_succ _)
      · exact Nat.le_refl _

def takeCharacter (byte : UInt8) (rest : List UInt8) : Char × List UInt8 :=
  match Lead.ofByte? byte.toNat with
  | none => (replacement, rest)
  | some lead => finish lead.low lead.high lead.following lead.code rest

theorem takeCharacter_length_le (byte : UInt8) (rest : List UInt8) :
    (takeCharacter byte rest).2.length ≤ rest.length := by
  unfold takeCharacter
  split
  · exact Nat.le_refl _
  · exact finish_length_le ..

def characters : List UInt8 → List Char
  | [] => []
  | byte :: rest =>
      (takeCharacter byte rest).1 :: characters (takeCharacter byte rest).2
termination_by bytes => bytes.length
decreasing_by
  exact Nat.lt_succ_of_le (takeCharacter_length_le byte rest)

def decode (bytes : List UInt8) : String :=
  String.ofList (characters bytes)

def text? (bytes : List UInt8) : Option String :=
  String.fromUTF8? (ByteArray.mk bytes.toArray)

def encode (text : String) : List UInt8 :=
  text.toUTF8.toList

def bytewise (text : String) : String :=
  String.ofList ((encode text).map fun byte => Char.ofNat byte.toNat)

end Montage.Text.Utf8
