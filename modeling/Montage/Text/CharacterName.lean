import Montage.Text.Basic
import Montage.Text.Percent
import Montage.Text.Table.CharacterNamesAToC
import Montage.Text.Table.CharacterNamesDToK
import Montage.Text.Table.CharacterNamesLToN
import Montage.Text.Table.CharacterNamesOToS
import Montage.Text.Table.CharacterNamesTToZ

/-!
# Character names

The names that Unicode gives to characters, other names included.  Syllables of Hangul and
ideographs are named by rule, and all other names are listed.
-/

namespace Montage.Text.CharacterName

/-- Whether what is left of a name is listed in a table from a place on, where it is
nothing once the name differs. -/
def isListedFrom : List (Option (List Char)) → Option (List Char) → List Char → Bool
  | _, left, [] => left == some []
  | starts, left, character :: table =>
      if character = '\n' then isListedFrom starts left table
      -- The stack holds what was left at the start of each group around the place.
      else if character = '(' then isListedFrom (left :: starts) left table
      else if character = ',' then
        left == some [] || isListedFrom starts starts.head?.join table
      else if character = ')' then
        left == some [] || isListedFrom starts.tail none table
      else isListedFrom starts (left.bind (Text.dropStart? [character])) table

def isListed (name : List Char) (table : String) : Bool :=
  isListedFrom [some name] (some name) table.toList

def tables : List String := [
  Table.characterNamesAToB, Table.characterNamesC, Table.characterNamesDToG,
  Table.characterNamesHToK, Table.characterNamesL, Table.characterNamesMToN,
  Table.characterNamesOToR, Table.characterNamesS, Table.characterNamesTToZ]

/-- Consonants that start a syllable, of which there may be none. -/
def leads : List String :=
  ["G", "GG", "N", "D", "DD", "R", "M", "B", "BB", "S", "SS", "", "J", "JJ", "C", "K", "T",
    "P", "H"]

def vowels : List String :=
  ["A", "AE", "YA", "YAE", "EO", "E", "YEO", "YE", "O", "WA", "WAE", "OE", "YO", "U",
    "WEO", "WE", "WI", "YU", "EU", "YI", "I"]

/-- Consonants that end a syllable, of which there may be none. -/
def tails : List String :=
  ["", "G", "GG", "GS", "N", "NJ", "NH", "D", "L", "LG", "LM", "LB", "LS", "LT", "LP",
    "LH", "M", "B", "BS", "S", "SS", "NG", "J", "C", "K", "T", "P", "H"]

def afterLongest? (starts : List String) (characters : List Char) : Option (List Char) :=
  (starts.filterMap fun start => Text.dropStart? start.toList characters).foldl
    (fun shortest rest =>
      if shortest.all fun best => rest.length < best.length then some rest else shortest)
    none

def isSyllable (characters : List Char) : Bool :=
  (((afterLongest? leads characters).bind (afterLongest? vowels)).bind
    (afterLongest? tails)) == some []

def number? (digits : List Char) : Option Nat :=
  digits.foldlM (fun number digit =>
    if 'a' ≤ digit then none
    else (Percent.hexValue? digit).map (16 * number + ·)) 0

def unifiedRanges : List (Nat × Nat) := [
  (13312, 19903), (19968, 40959), (131072, 173791), (173824, 177976), (177984, 178205),
  (178208, 183969), (183984, 191456), (196608, 201546)]

/-- Starts of names that end in the code point of the character, with the code points. -/
def numbered : List (String × List (Nat × Nat)) := [
  ("CJK COMPATIBILITY IDEOGRAPH-", [(63744, 64109), (64112, 64217), (194560, 195101)]),
  ("KHITAN SMALL SCRIPT CHARACTER-", [(101120, 101589)]),
  ("NUSHU CHARACTER-", [(110960, 111355)])]

def isNumbered (name : List Char) : Bool :=
  numbered.any fun (start, ranges) =>
    match Text.dropStart? start.toList name with
    | some digits =>
        digits.head? != some '0' && (number? digits).any (Text.inRanges ranges)
    | none => false

end CharacterName

/-- Whether a text is the name of a character. -/
def isCharacterName (name : List Char) : Bool :=
  match dropStart? "HANGUL SYLLABLE ".toList name with
  | some syllable => CharacterName.isSyllable syllable
  | none =>
      match dropStart? "CJK UNIFIED IDEOGRAPH-".toList name with
      | some digits =>
          -- The code point may have a zero in front.
          (digits.length == 4 || digits.length == 5) &&
            (CharacterName.number? digits).any (inRanges CharacterName.unifiedRanges)
      | none =>
          -- Only listed names may have small letters.
          let capitals := name.map Char.toUpper
          CharacterName.isNumbered capitals ||
            CharacterName.tables.any (CharacterName.isListed capitals)

end Montage.Text
