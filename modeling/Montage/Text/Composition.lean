import Montage.Text.Character
import Montage.Text.Table.Compositions

/-!
# Composed letters

Letters with marks in their standard form: a letter and its marks are one character where
there is one, and other marks stand in a fixed order.  Covers the characters of domain names.
-/

namespace Montage.Text.Composition

def isMark (character : Char) : Bool :=
  markRanges.any fun (first, last, _) =>
    first ≤ character.toNat && character.toNat ≤ last

/-- The combining class of a character, which is zero for all but some marks. -/
def rank (character : Char) : Nat :=
  let found := markRanges.find? fun (first, last, _) =>
    first ≤ character.toNat && character.toNat ≤ last
  (found.map fun (_, _, rank) => rank).getD 0

/-- A character taken apart into a letter and its marks, in so many steps at most. -/
def takeApart : Nat → Char → List Char
  | 0, character => [character]
  | depth + 1, character =>
      match compositions.find? fun (_, _, whole) => whole = character.toNat with
      | some (first, second, _) => takeApart depth (Char.ofNat first) ++ [Char.ofNat second]
      | none => [character]

def depthLimit : Nat := 4

/-- A mark among other marks, behind those that come first. -/
def insertMark (mark : Char) : List Char → List Char
  | [] => [mark]
  | other :: rest =>
      if rank mark < rank other then mark :: other :: rest
      else other :: insertMark mark rest

/-- Characters with the marks on each letter in their order, behind the marks on the letter
under way. -/
def sortFrom : List Char → List Char → List Char
  | marks, [] => marks
  | marks, character :: rest =>
      if rank character = 0 then marks ++ character :: sortFrom [] rest
      else sortFrom (insertMark character marks) rest

def whole? (first second : Char) : Option Char :=
  (compositions.find? fun (one, other, _) => one = first.toNat ∧ other = second.toNat).map
    fun (_, _, whole) => Char.ofNat whole

/-- Characters put together behind a letter and the marks that were not put together with
it. -/
def joinFrom : Char → List Char → List Char → List Char
  | letter, marks, [] => letter :: marks
  | letter, marks, character :: rest =>
      let isFree := marks.getLast?.all fun mark => 0 < rank mark && rank mark < rank character
      match if isFree then whole? letter character else none with
      | some whole => joinFrom whole marks rest
      | none =>
          if rank character = 0 then letter :: marks ++ joinFrom character [] rest
          else joinFrom letter (marks ++ [character]) rest

def compose (characters : List Char) : List Char :=
  match sortFrom [] (characters.flatMap (takeApart depthLimit)) with
  | [] => []
  | letter :: rest => joinFrom letter [] rest

end Montage.Text.Composition
