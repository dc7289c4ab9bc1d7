import Montage.Text.Table.Letters

/-!
# Character classes

White space, decimal digits of all scripts, word characters and lower case, for
the whole Unicode repertoire.  Every text rule of the library draws on these
classes, so that input in any script is read alike everywhere.
-/

namespace Montage.Text

def inRanges (ranges : List (Nat × Nat)) (point : Nat) : Bool :=
  ranges.any fun range => range.1 ≤ point && point ≤ range.2

/-- White space: the Unicode spaces and line separators, together with the four
information separators. -/
def isBlank (character : Char) : Bool :=
  let point := character.toNat
  (9 ≤ point && point ≤ 13) || (28 ≤ point && point ≤ 32) || point == 133 ||
    point == 160 || point == 5760 || (8192 ≤ point && point ≤ 8202) ||
    point == 8232 || point == 8233 || point == 8239 || point == 8287 ||
    point == 12288

def digitValue? (character : Char) : Option Nat :=
  let point := character.toNat
  (digitZeros.find? fun first => first ≤ point && point ≤ first + 9).map (point - ·)

def isDecimalDigit (character : Char) : Bool :=
  (digitValue? character).isSome

def isWord (character : Char) : Bool :=
  inRanges wordRanges character.toNat

def isCased (character : Char) : Bool :=
  inRanges casedRanges character.toNat

def isCaseIgnorable (character : Char) : Bool :=
  inRanges caseIgnorableRanges character.toNat

/-- The distance from a code point to its lower-case partner, zero when it has
none. -/
def lowercaseDistance (point : Nat) : Int :=
  match lowercaseRuns.find? fun run =>
      run.1 ≤ point && point ≤ run.2.1 && (point - run.1) % run.2.2.1 == 0 with
  | some run => run.2.2.2
  | none => 0

/-- The lower-case form of one character outside any context.  A capital I with a
dot keeps its dot as a combining mark. -/
def lowercaseOne (character : Char) : List Char :=
  if character.toNat = 304 then ['i', Char.ofNat 775]
  else if character.toNat < 128 then [character.toLower]
  else [Char.ofNat
    ((character.toNat : Int) + lowercaseDistance character.toNat).toNat]

/-- Whether the first character that case context does not look through has case. -/
def startsCased (characters : List Char) : Bool :=
  match characters.dropWhile isCaseIgnorable with
  | [] => false
  | first :: _ => isCased first

/-- Lower case of the characters that follow `before`, which is given last
character first. -/
def lowercaseAfter : List Char → List Char → List Char
  | _, [] => []
  | before, character :: rest =>
      -- A capital sigma that ends a word takes its final form.
      (if character.toNat = 931 then
        [if startsCased before && !startsCased rest then Char.ofNat 962
          else Char.ofNat 963]
      else lowercaseOne character) ++ lowercaseAfter (character :: before) rest

def lowercase (text : String) : String :=
  String.ofList (lowercaseAfter [] text.toList)

end Montage.Text
