import Montage.Text.Basic

/-!
# Quoting inside filter graphs

An option value inside a filter graph is unquoted twice, first by the graph reader
and then by the option reader.  Overlay text is unescaped once more when it is
drawn.
-/

namespace Montage.Filter

def optionEscape (character : Char) : List Char :=
  if character = '\\' ∨ character = '\'' ∨ character = ':' then ['\\', character]
  else [character]

/-- One character inside a quoted run of the graph reader.  A single quote leaves the
run, stands behind a backslash, and enters a new run. -/
def graphEscape (character : Char) : List Char :=
  if character = '\'' then ['\'', '\\', '\'', '\''] else [character]

def quoteCharacters (characters : List Char) : List Char :=
  '\'' :: (characters.flatMap optionEscape).flatMap graphEscape ++ ['\'']

def quote (value : String) : String :=
  String.ofList (quoteCharacters value.toList)

def expansionEscape (character : Char) : List Char :=
  if character = '\\' ∨ character = '%' then ['\\', character] else [character]

def quoteText (text : String) : String :=
  String.ofList (quoteCharacters (text.toList.flatMap expansionEscape))

end Montage.Filter
