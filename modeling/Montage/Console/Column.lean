import Montage.Console.Markup

/-!
# Columns

Messages in the columns of a table that fills a console at most.  A column is as wide as
its widest line, and the last one only as far as there is room for it.
-/

namespace Montage.Console

def endsLine (character : Char) : Bool :=
  [10, 11, 12, 13, 28, 29, 30, 133, 8232, 8233].contains character.toNat

def Styled.width (styled : Styled) : Nat :=
  ((Text.splitBy endsLine styled.characters).map cells).foldl max 0

namespace Column

def width (title : String) (messages : List String) : Except MarkupError Nat := do
  let texts ← messages.mapM Markup.styled
  .ok ((texts.map Styled.width).foldl max (cells title.toList))

def padding : Nat := 2

/-- The cells that are left for a column behind others of some widths, where there is a
border on both sides of every column. -/
def room (widths : List Nat) : Nat :=
  let columns := widths.length + 1
  Layout.consoleWidth - (columns + 1) - padding * columns - widths.foldr (· + ·) 0

/-- The messages in the last column of a table, each in its lines, behind columns with
titles and messages. -/
def lastLines (before : List (String × List String)) (title : String)
    (messages : List String) : Except MarkupError (List (List Styled)) := do
  let widths ← before.mapM fun (title, messages) => width title messages
  let wanted ← width title messages
  messages.mapM (Markup.linesWithin (min wanted (room widths)))

end Column

end Montage.Console
