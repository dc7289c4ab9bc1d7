import Montage.Text.Character

/-!
# Cutting and joining text

Trimming, splitting and replacing on character lists, with the matching
operations on strings.  Lengths and cuts count characters.
-/

namespace Montage.Text

def trimBy (removed : Char → Bool) (characters : List Char) : List Char :=
  ((characters.dropWhile removed).reverse.dropWhile removed).reverse

def trim (text : String) : String :=
  String.ofList (trimBy isBlank text.toList)

/-- The pieces of a list between the elements that satisfy `separator`; there is
always one piece more than there are separators. -/
def splitBy (separator : Char → Bool) : List Char → List (List Char)
  | [] => [[]]
  | character :: rest =>
      if separator character then [] :: splitBy separator rest
      else match splitBy separator rest with
        | [] => [[character]]
        | piece :: pieces => (character :: piece) :: pieces

def split (separator : Char) (text : String) : List String :=
  (splitBy (· == separator) text.toList).map String.ofList

def lines (text : String) : List String :=
  split '\n' text

def withLineFeeds : List Char → List Char
  | [] => []
  | '\r' :: '\n' :: rest => '\n' :: withLineFeeds rest
  | '\r' :: rest => '\n' :: withLineFeeds rest
  | character :: rest => character :: withLineFeeds rest

def withoutLineEnd (characters : List Char) : List Char :=
  if characters.getLast? = some '\n' then characters.dropLast else characters

def dropStart? : List Char → List Char → Option (List Char)
  | [], characters => some characters
  | _ :: _, [] => none
  | expected :: pattern, character :: rest =>
      if expected = character then dropStart? pattern rest else none

theorem dropStart?_length {pattern characters rest : List Char}
    (dropped : dropStart? pattern characters = some rest) :
    characters.length = pattern.length + rest.length := by
  induction pattern generalizing characters with
  | nil => simp_all [dropStart?]
  | cons expected pattern ih =>
      cases characters with
      | nil => simp [dropStart?] at dropped
      | cons character characters =>
          simp only [dropStart?] at dropped
          split at dropped
          · simp [ih dropped]; omega
          · simp at dropped

def occursIn (pattern : List Char) : List Char → Bool
  | [] => pattern.isEmpty
  | character :: rest =>
      (dropStart? pattern (character :: rest)).isSome || occursIn pattern rest

def contains (text pattern : String) : Bool :=
  occursIn pattern.toList text.toList

def replacePair (first second : Char) (replacement : List Char) :
    List Char → List Char
  | [] => []
  | [character] => [character]
  | character :: next :: rest =>
      if character = first ∧ next = second then
        replacement ++ replacePair first second replacement rest
      else character :: replacePair first second replacement (next :: rest)

def replaceOne (replaced : Char) (replacement : List Char)
    (characters : List Char) : List Char :=
  characters.flatMap fun character =>
    if character = replaced then replacement else [character]

def takeLast {α : Type} (count : Nat) (elements : List α) : List α :=
  elements.drop (elements.length - count)

def suffix (count : Nat) (text : String) : String :=
  String.ofList (takeLast count text.toList)

def start (count : Nat) (text : String) : String :=
  String.ofList (text.toList.take count)

def join (separator : String) (texts : List String) : String :=
  separator.intercalate texts

def padRight (width : Nat) (text : String) : String :=
  text ++ String.ofList (List.replicate (width - text.length) ' ')

def precedes (first second : String) : Bool :=
  first ≤ second

def sorted (texts : List String) : List String :=
  texts.mergeSort precedes

end Montage.Text
