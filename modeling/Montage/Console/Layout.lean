import Montage.Console.Cells
import Montage.Text.Basic

/-!
# Console layout

How plain text becomes lines of a console.  Some control characters are never printed,
and lines that are wider than the console are broken between words, or inside words that
are wider than a whole line.
-/

namespace Montage.Console.Layout

/-- The control characters that are left out: bell, backspace, vertical tab, form feed
and carriage return. -/
def isDropped (character : Char) : Bool :=
  [7, 8, 11, 12, 13].contains character.toNat

def printable (characters : List Char) : List Char :=
  characters.filter fun character => !isDropped character

def tabWidth : Nat := 8

/-- The number of blanks from a column to the next tab stop, none if there is one. -/
def blanksToStop (column : Nat) : Nat :=
  (tabWidth - column % tabWidth) % tabWidth

/-- The word at the start of a line with the white space around it, and what follows. -/
def takeWord (characters : List Char) : List Char × List Char :=
  let (before, inside) := characters.span Text.isBlank
  let (word, after) := inside.span fun character => !Text.isBlank character
  let (blanks, rest) := after.span Text.isBlank
  (before ++ word ++ blanks, rest)

/-- The words of a line.  White space goes with the word before it, and at the start of
the line with the first word. -/
def wordsOf : Nat → List Char → List (List Char)
  | 0, _ => []
  | fuel + 1, characters =>
      if characters.all Text.isBlank then []
      else
        let (word, rest) := takeWord characters
        word :: wordsOf fuel rest

def trimEnd (characters : List Char) : List Char :=
  (characters.reverse.dropWhile Text.isBlank).reverse

/-- Where a line is to be broken, as counts of the characters before each break. -/
structure Breaks where
  /-- The places of the breaks, last one first. -/
  places : List Nat := []
  column : Nat := 0
  start : Nat := 0
  deriving DecidableEq, Repr, Inhabited

namespace Breaks

def add (place : Nat) (places : List Nat) : List Nat :=
  if place = 0 then places else place :: places

def addPieces (breaks : Breaks) : Nat → List (List Char) → Breaks
  | _, [] => breaks
  | start, [piece] => { breaks with places := add start breaks.places, column := cells piece }
  | start, piece :: rest =>
      addPieces { breaks with places := add start breaks.places } (start + piece.length) rest

def addWord (width : Nat) (breaks : Breaks) (word : List Char) : Breaks :=
  let size := cells (trimEnd word)
  let after : Breaks :=
    if breaks.column + size ≤ width then
      { breaks with column := breaks.column + cells word }
    else if width < size then breaks.addPieces breaks.start (chop width word)
    else if breaks.column = 0 ∨ breaks.start = 0 then breaks
    else { breaks with places := breaks.start :: breaks.places, column := cells word }
  { after with start := breaks.start + word.length }

end Breaks

def breakPlaces (width : Nat) (line : List Char) : List Nat :=
  ((wordsOf line.length line).foldl (Breaks.addWord width) {}).places.reverse

def consoleWidth : Nat := 80

end Montage.Console.Layout
