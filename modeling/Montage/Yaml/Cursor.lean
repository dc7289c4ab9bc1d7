import Montage.Fault
import Montage.Text.Percent

/-!
# Cursors

Places in the text of a YAML document, counted in characters, lines and columns.  A line
ends with a line feed or with one of three other characters, and a byte order mark takes
no column.
-/

namespace Montage.Yaml

def isBreak (character : Char) : Bool :=
  character = '\n' || character = '\u0085' || character = '\u2028' || character = '\u2029'

def isGap (character : Char) : Bool :=
  character = ' ' || character = '\t' || isBreak character

def byteOrderMark : Char := '\uFEFF'

/-- A place in a text. -/
structure Cursor where
  rest : List Char
  index : Nat := 0
  line : Nat := 0
  column : Nat := 0
  deriving Inhabited

namespace Cursor

def peek (cursor : Cursor) : Option Char := cursor.rest.head?

def isAtEnd (cursor : Cursor) : Bool := cursor.rest.isEmpty

def isAtEndOr (cursor : Cursor) (isOne : Char → Bool) : Bool := cursor.peek.all isOne

def isAt (cursor : Cursor) (isOne : Char → Bool) : Bool := cursor.peek.any isOne

def next (cursor : Cursor) : Cursor :=
  match cursor.rest with
  | [] => cursor
  | character :: rest =>
      if isBreak character then
        { rest, index := cursor.index + 1, line := cursor.line + 1, column := 0 }
      else
        let width := if character = byteOrderMark then 0 else 1
        { cursor with rest, index := cursor.index + 1, column := cursor.column + width }

def advance : Nat → Cursor → Cursor
  | 0, cursor => cursor
  | count + 1, cursor => advance count cursor.next

def takeWhile (cursor : Cursor) (isOne : Char → Bool) : List Char × Cursor :=
  let taken := cursor.rest.takeWhile isOne
  (taken, cursor.advance taken.length)

def skipWhile (cursor : Cursor) (isOne : Char → Bool) : Cursor :=
  (cursor.takeWhile isOne).2

def skipBlanks (cursor : Cursor) : Cursor := cursor.skipWhile (· == ' ')

def skipBlanksTo (column : Nat) (cursor : Cursor) : Cursor :=
  let blanks := (cursor.rest.takeWhile (· == ' ')).length
  cursor.advance (min blanks (column - cursor.column))

/-- The end of a line at a cursor as it counts in a text, and the cursor behind it. -/
def takeBreak (cursor : Cursor) : List Char × Cursor :=
  match cursor.rest with
  | character :: _ =>
      if character = '\u0085' then (['\n'], cursor.next)
      else if isBreak character then ([character], cursor.next)
      else ([], cursor)
  | [] => ([], cursor)

def skipLine (cursor : Cursor) : Cursor := cursor.skipWhile fun character => !isBreak character

def isAtMark (mark : Char) (cursor : Cursor) : Bool :=
  match cursor.rest with
  | first :: second :: third :: rest =>
      first == mark && second == mark && third == mark && rest.head?.all isGap
  | _ => false

def isAtDocument (cursor : Cursor) : Bool := cursor.isAtMark '-' || cursor.isAtMark '.'

/-- The cursor behind blanks and a remark, which have to come to the end of the line, and
behind the end of the line. -/
def finishLine (cursor : Cursor) : Except Fault Cursor :=
  let afterBlanks := cursor.skipBlanks
  let afterRemark := if afterBlanks.isAt (· == '#') then afterBlanks.skipLine else afterBlanks
  if afterRemark.isAtEndOr isBreak then .ok afterRemark.takeBreak.2
  else .error .unreadableYaml

end Cursor

def isNameCharacter (character : Char) : Bool :=
  character.isAlphanum || character = '-' || character = '_'

def ofHexDigits (digits : List Char) : Nat :=
  digits.foldl (fun number digit => 16 * number + (Text.Percent.hexValue? digit).getD 0) 0

def areHexDigits (count : Nat) (characters : List Char) : Bool :=
  characters.length == count &&
    characters.all fun character => (Text.Percent.hexValue? character).isSome

end Montage.Yaml
