import Montage.Text.Character
import Montage.Text.Table.CellWidths

/-!
# Cells

The places that characters take on a line of a console.  A character takes none, one or
two cells.  A joiner takes the character after it into the one before it, and a colour
mark widens some symbols.  What stands together in this way is never broken apart.
-/

namespace Montage.Console

def joiner : Char := '\u200D'

def colorMark : Char := '\uFE0F'

def cellsOf (character : Char) : Nat :=
  let point := character.toNat
  if 32 ≤ point && point < 127 then 1
  else if Text.inRanges Text.zeroWidthRanges point then 0
  else if Text.inRanges Text.wideRanges point then 2
  else 1

def widening (character : Char) : Nat :=
  if Text.inRanges Text.widenedRanges character.toNat then 1 else 0

/-- The number of cells of characters behind another one that a colour mark may widen. -/
def cellsAfter : Option Char → List Char → Nat
  | _, [] => 0
  | before, [character] =>
      if character = joiner then 0
      else if character = colorMark then (before.map widening).getD 0
      else cellsOf character
  | before, character :: next :: rest =>
      if character = joiner then cellsAfter before rest
      else if character = colorMark then
        (before.map widening).getD 0 + cellsAfter none (next :: rest)
      else if cellsOf character = 0 then cellsAfter before (next :: rest)
      else cellsOf character + cellsAfter (some character) (next :: rest)

def cells (characters : List Char) : Nat := cellsAfter none characters

/-- Characters that stand together, with their number of cells. -/
structure Cluster where
  characters : List Char
  size : Nat
  deriving DecidableEq, Repr, Inhabited

namespace Cluster

/-- The clusters with further characters in the last one.  Clusters are given last one
first, and without any the characters are one by themselves. -/
def extend (more : List Char) (width : Nat) : List Cluster → List Cluster
  | [] => [⟨more, width⟩]
  | last :: others => ⟨last.characters ++ more, last.size + width⟩ :: others

/-- The clusters of characters behind other clusters, which are given last one first, and
behind a character that a colour mark may widen. -/
def gather (clusters : List Cluster) (before : Option Char) : List Char → List Cluster
  | [] => clusters.reverse
  | [character] =>
      if character = joiner then (extend [character] 0 clusters).reverse
      else if character = colorMark then
        (extend [character] ((before.map widening).getD 0) clusters).reverse
      else if cellsOf character = 0 then (extend [character] 0 clusters).reverse
      else (⟨[character], cellsOf character⟩ :: clusters).reverse
  | character :: next :: rest =>
      if character = joiner ∧ !clusters.isEmpty then
        gather (extend [character, next] 0 clusters) before rest
      else if character = colorMark then
        gather (extend [character] ((before.map widening).getD 0) clusters)
          (before.filter fun widened => widening widened = 0) (next :: rest)
      else if character = joiner ∨ cellsOf character = 0 then
        gather (extend [character] 0 clusters) before (next :: rest)
      else
        gather (⟨[character], cellsOf character⟩ :: clusters) (some character) (next :: rest)

def ofCharacters (characters : List Char) : List Cluster := gather [] none characters

/-- Pieces of at most so many cells that clusters are cut into, behind a column. -/
def chop (width : Nat) : Nat → List Cluster → List (List Char)
  | _, [] => [[]]
  | column, cluster :: rest =>
      if width < column + cluster.size then
        match chop width cluster.size rest with
        | [] => [[], cluster.characters]
        | piece :: pieces => [] :: (cluster.characters ++ piece) :: pieces
      else
        match chop width (column + cluster.size) rest with
        | [] => [cluster.characters]
        | piece :: pieces => (cluster.characters ++ piece) :: pieces

/-- The first clusters, as far as there is room for them. -/
def fill : Nat → List Cluster → List Char
  | 0, _ => []
  | _, [] => []
  | room, cluster :: rest =>
      if cluster.size ≤ room then cluster.characters ++ fill (room - cluster.size) rest
      -- A blank takes the place of half a cluster.
      else [' ']

end Cluster

def chop (width : Nat) (characters : List Char) : List (List Char) :=
  Cluster.chop width 0 (Cluster.ofCharacters characters)

def crop (width : Nat) (characters : List Char) : List Char :=
  if cells characters ≤ width then characters
  else Cluster.fill width (Cluster.ofCharacters characters)

end Montage.Console
