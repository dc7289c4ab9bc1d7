import Montage.Console.Layout

/-!
# Styled text

Text with the stretches of it that have a style.  When a text is broken into lines, each
line keeps what lies in it of every stretch, and a stretch with nothing in it is lost as
soon as its line is cut.  Main operation: the lines that a text is printed as.
-/

namespace Montage.Console

/-- A stretch of a text in a style. -/
structure Span where
  start : Nat
  stop : Nat
  style : String
  deriving DecidableEq, Repr, Inhabited

namespace Span

/-- What lies of a stretch between two places, counted from the first of them. -/
def between? (first last : Nat) (span : Span) : Option Span :=
  let start := span.start - first
  let stop := min span.stop last - first
  if start < stop then some { span with start, stop } else none

def within? (length : Nat) (span : Span) : Option Span :=
  if span.start < length then some { span with stop := min span.stop length } else none

def behind (count : Nat) (span : Span) : Span :=
  { span with start := count + span.start, stop := count + span.stop }

end Span

/-- Text with its stretches. -/
structure Styled where
  characters : List Char
  spans : List Span := []
  deriving DecidableEq, Repr, Inhabited

namespace Styled

def between (styled : Styled) (first last : Nat) : Styled :=
  ⟨(styled.characters.drop first).take (last - first),
    styled.spans.filterMap (Span.between? first last)⟩

def partsFrom (styled : Styled) (first : Nat) : List Nat → List Styled
  | [] => [styled.between first styled.characters.length]
  | place :: places => styled.between first place :: styled.partsFrom place places

/-- The parts of a text cut at places.  Without any it stays as it is. -/
def cutAt (styled : Styled) (places : List Nat) : List Styled :=
  if places.isEmpty then [styled] else styled.partsFrom 0 places

def placesOf (styled : Styled) (character : Char) : List Nat :=
  (List.range styled.characters.length).zip styled.characters |>.filterMap
    fun (place, other) => if other = character then some place else none

/-- A text cut on both sides of every line feed, and without these. -/
def lines (styled : Styled) : List Styled :=
  let ends := styled.placesOf '\n'
  (styled.cutAt (ends.flatMap fun place => [place, place + 1])).filter
    fun part => part.characters ≠ ['\n']

/-- A text with other characters, which may be fewer. -/
def cropped (styled : Styled) (characters : List Char) : Styled :=
  ⟨characters,
    if characters.length < styled.characters.length then
      styled.spans.filterMap (Span.within? characters.length)
    else styled.spans⟩

/-- A text with so many blanks behind it, in the style of its end. -/
def padded (styled : Styled) (blanks : Nat) : Styled :=
  ⟨styled.characters ++ List.replicate blanks ' ',
    styled.spans.map fun span =>
      if span.stop = styled.characters.length then
        { span with stop := span.stop + blanks }
      else span⟩

def joined : List Styled → Styled
  | [] => ⟨[], []⟩
  | styled :: rest =>
      let others := joined rest
      ⟨styled.characters ++ others.characters,
        styled.spans ++ others.spans.map (Span.behind styled.characters.length)⟩

/-- Parts of a line from a column on, with blanks for the tabs that end them. -/
def expandParts : Nat → List Styled → List Styled
  | _, [] => []
  | column, part :: rest =>
      if part.characters.getLast? = some '\t' then
        let shown := part.characters.dropLast ++ [' ']
        let reached := column + cells shown
        let blanks := Layout.blanksToStop reached
        (⟨shown, part.spans⟩ : Styled).padded blanks :: expandParts (reached + blanks) rest
      else part :: expandParts (column + cells part.characters) rest

/-- A line with blanks up to the next tab stop for every tab, of which there is at least
one for each. -/
def withoutTabs (styled : Styled) : Styled :=
  let tabs := styled.placesOf '\t'
  if tabs.isEmpty then styled
  else joined (expandParts 0 (styled.cutAt (tabs.map (· + 1))))

/-- A line without white space at its end as far as it has more characters than fit. -/
def trimmed (width : Nat) (styled : Styled) : Styled :=
  let length := styled.characters.length
  let blanks := (styled.characters.reverse.takeWhile Text.isBlank).length
  styled.cropped (styled.characters.take (length - min blanks (length - width)))

def wrapped (width : Nat) (styled : Styled) : List Styled :=
  let line := styled.withoutTabs
  (line.cutAt (Layout.breakPlaces width line.characters)).map fun part =>
    let part := part.trimmed width
    part.cropped (crop width part.characters)

def printedLines (width : Nat) (styled : Styled) : List Styled :=
  styled.lines.flatMap (wrapped width)

def pieces (styled : Styled) : List (List Char) :=
  let ends := styled.spans.flatMap fun span => [span.start, span.stop]
  (styled.cutAt (ends.mergeSort (· ≤ ·))).map Styled.characters

/-- Pieces cropped to so many cells in all. -/
def fillPieces : Nat → List (List Char) → List Char
  | _, [] => []
  | room, piece :: rest =>
      -- Nothing is printed behind the piece that takes the last of the cells, be it of no width.
      if cells piece < room then piece ++ fillPieces (room - cells piece) rest
      else crop room piece

/-- The characters of a line as they are printed.  Every piece is measured by itself. -/
def shown (width : Nat) (styled : Styled) : List Char :=
  if (styled.pieces.map cells).foldr (· + ·) 0 ≤ width then styled.characters
  else fillPieces width styled.pieces

def printed (width : Nat) (lines : List Styled) : String :=
  Text.join "\n" (lines.map fun line => String.ofList (line.shown width))

/-- A text as it is printed where lines may be of any width. -/
def printWide (styled : Styled) : String :=
  Text.join "\n" (styled.lines.map fun line => String.ofList line.withoutTabs.characters)

end Styled

end Montage.Console
