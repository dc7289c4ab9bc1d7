import Montage.Text.Basic

/-!
# Shell words

Texts quoted so that a shell takes each of them as one word.
-/

namespace Montage.Text.ShellWord

def isPlain (character : Char) : Bool :=
  character.isAlphanum || "_@%+=:,./-".toList.contains character

/-- The characters of a quoted word.  A single quote leaves the quotes, is quoted
itself, and enters them again. -/
def quoteCharacters (characters : List Char) : List Char :=
  characters.flatMap fun character =>
    if character = '\'' then "'\"'\"'".toList else [character]

/-- A text as a shell word.  The empty text is a pair of quotes. -/
def quote (text : String) : String :=
  if !text.isEmpty && text.toList.all isPlain then text
  else String.ofList ('\'' :: quoteCharacters text.toList ++ ['\''])

def join (texts : List String) : String :=
  Text.join " " (texts.map quote)

end Montage.Text.ShellWord
