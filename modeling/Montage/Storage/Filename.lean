import Montage.Path

/-!
# Safe file names

File names that clients give are reduced to word characters, dashes and single dots,
so that a stored file is neither hidden nor outside its directory.
-/

namespace Montage.Storage

def singleDots : List Char → List Char
  | [] => []
  | [character] => [character]
  | first :: second :: rest =>
      if first = '.' ∧ second = '.' then singleDots (second :: rest)
      else first :: singleDots (second :: rest)

/-- Characters that may stand in a file name, white space included. -/
def isSafe (character : Char) : Bool :=
  Text.isWord character || Text.isBlank character || character == '-' ||
    character == '.'

def underscoreBlanks : List Char → List Char
  | [] => []
  | [character] => if Text.isBlank character then ['_'] else [character]
  | first :: second :: rest =>
      if Text.isBlank first ∧ Text.isBlank second then underscoreBlanks (second :: rest)
      else (if Text.isBlank first then '_' else first) ::
        underscoreBlanks (second :: rest)

def fallbackName : String := "upload"

def safeLength : Nat := 200

def safeCharacters (name : List Char) : List Char :=
  let visible := (name.filter fun character => character.toNat ≠ 0).dropWhile (· == '.')
  let replaced := (singleDots visible).map fun character =>
    if isSafe character then character else '_'
  Text.trimBy (· == '.') (Text.trimBy (· == '_') (underscoreBlanks replaced))

def safeFilename (name : String) (fallback : String) : String :=
  let path := Path.ofString (String.ofList (Text.replaceOne '\\' ['/'] name.toList))
  let safe := String.ofList (safeCharacters path.name.toList)
  Text.start safeLength (if safe.isEmpty then fallback else safe)

end Montage.Storage
