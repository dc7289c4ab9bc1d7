import Montage.Text.Percent

/-!
# Internet addresses

The two ways to write the number of a host: as four numbers between dots, or as eight groups
of hexadecimal digits between colons.
-/

namespace Montage.Server.InternetAddress

/-- The states of a walk through text that looks like four numbers, each a run of digits with
a single character of any kind in front of the next. -/
def steps (character : Char) (state : Nat) : List Nat :=
  -- An even state is in front of a number and an odd one in it.
  let next := if state % 2 = 1 && state < 7 then [state + 1] else []
  if character.isDigit then (if state % 2 = 1 then state else state + 1) :: next else next

def looksDotted (text : List Char) : Bool :=
  (text.foldl (fun states character => (states.flatMap (steps character)).eraseDups)
    [0]).contains 7

/-- Whether digits write a number of a byte, with no needless zero in front. -/
def isByte (digits : List Char) : Bool :=
  !digits.isEmpty && digits.length ≤ 3 && digits.all Char.isDigit &&
    (digits = ['0'] || digits.head? ≠ some '0') &&
    digits.foldl (fun number digit => 10 * number + (digit.toNat - 48)) 0 < 256

def isDotted (text : List Char) : Bool :=
  let numbers := Text.splitBy (· == '.') text
  numbers.length = 4 && numbers.all isByte

def isGroup (digits : List Char) : Bool :=
  !digits.isEmpty && digits.length ≤ 4 &&
    digits.all fun digit => (Text.Percent.hexValue? digit).isSome

/-- The groups of text. -/
def groups? (text : List Char) : Option (List (List Char)) :=
  let groups := Text.splitBy (· == ':') text
  let last := groups.getLast?.getD []
  if !last.contains '.' then some groups
  -- An address of four numbers at the end counts as two groups.
  else if 3 ≤ groups.length && isDotted last then some (groups.dropLast ++ [['0'], ['0']])
  else none

/-- Whether pieces between colons are the groups of an address. -/
def areGroups (pieces : List (List Char)) : Bool :=
  let inside := (pieces.drop 1).dropLast
  match inside.findIdx? List.isEmpty with
  | none => pieces.length = 8 && pieces.all isGroup
  -- One empty place inside stands for all the groups that are missing, and only beside it may
  -- the first or the last piece be empty.
  | some index =>
      let front := pieces.take (index + 1)
      let back := pieces.drop (index + 2)
      let written := (if front = [[]] then [] else front) ++ (if back = [[]] then [] else back)
      pieces.length ≤ 9 && written.length < 8 && written.all isGroup

/-- Whether text without the network that it belongs to is an address of eight groups. -/
def isGrouped (text : List Char) : Bool :=
  (groups? text).any fun pieces => 3 ≤ pieces.length && areGroups pieces

/-- Whether text is an address of eight groups.  A percent sign comes before the name of the
network that it belongs to. -/
def isGroupedIn (text : List Char) : Bool :=
  match text.span (· != '%') with
  | (text, []) => isGrouped text
  | (text, _ :: scope) => isGrouped text && !scope.isEmpty && !scope.contains '%'

end Montage.Server.InternetAddress
