import Montage.Text.Basic
import Montage.Text.Composition
import Montage.Text.Punycode
import Montage.Text.Table.DomainCharacters

/-!
# Domain names

Names of hosts in any script.  A name has labels between dots, and each of them has a form in
ASCII that is looked up instead of it.
-/

namespace Montage.Server.DomainName

open Text (inRanges)

def isDot (character : Char) : Bool :=
  ".。．｡".toList.contains character

/-- What a label in ASCII begins with if it stands for one of another script. -/
def mark : List Char := "xn--".toList

def labelLimit : Nat := 63

/-- The greatest length of a name in ASCII without a dot at its end. -/
def nameLimit : Nat := 253

def isTransparent (character : Char) : Bool :=
  let point := character.toNat
  (inRanges Text.nonspacingRanges point && !Text.separatingMarks.contains point) ||
    Text.passedMarks.contains point

/-- Whether the first letter of those next to a place joins over the place, for letters that
join on that side only. -/
def joins (oneSided : List (Nat × Nat)) (neighbours : List Char) : Bool :=
  match neighbours.dropWhile isTransparent with
  | [] => false
  | letter :: _ =>
      inRanges Text.dualJoiningRanges letter.toNat || inRanges oneSided letter.toNat

def followsVirama (before : List Char) : Bool :=
  before.head?.any fun character => Text.Composition.rank character = 9

/-- Whether a character may stand behind some characters, given last one first, and in front
of others. -/
def fits (before : List Char) (character : Char) (after : List Char) : Bool :=
  let point := character.toNat
  let among (ranges : List (Nat × Nat)) (other : Char) := inRanges ranges other.toNat
  inRanges Text.domainRanges point ||
    match point with
    | 0xb7 => before.head? = some 'l' && after.head? = some 'l'
    | 0x375 => after.head?.any (among Text.greekRanges)
    | 0x5f3 | 0x5f4 => before.head?.any (among Text.hebrewRanges)
    | 0x200c => followsVirama before ||
        (joins Text.leftJoiningRanges before && joins Text.rightJoiningRanges after)
    | 0x200d => followsVirama before
    -- The Japanese middle dot is at home in any of the scripts of the language.
    | 0x30fb => (before ++ after).any (among Text.japaneseRanges)
    -- The two sets of Arabic digits do not go together.
    | _ =>
        (inRanges [(0x660, 0x669)] point &&
          !(before ++ after).any (among [(0x6f0, 0x6f9)])) ||
        (inRanges [(0x6f0, 0x6f9)] point &&
          !(before ++ after).any (among [(0x660, 0x669)]))

/-- Whether every character may stand where it stands, behind some characters, given last one
first. -/
def allFit : List Char → List Char → Bool
  | _, [] => true
  | before, character :: after =>
      fits before character after && allFit (character :: before) after

def isRightToLeft (character : Char) : Bool :=
  inRanges Text.rightToLeftRanges character.toNat

def isEuropean (character : Char) : Bool :=
  inRanges Text.europeanRanges character.toNat

def isArabic (character : Char) : Bool :=
  inRanges Text.arabicRanges character.toNat

def isNeutral (character : Char) : Bool :=
  inRanges Text.neutralRanges character.toNat

def isNonspacing (character : Char) : Bool :=
  inRanges Text.nonspacingRanges character.toNat

/-- Whether the directions of the characters go together.  A label with characters from right
to left begins and ends with such, digits apart. -/
def isOneWay (label : List Char) : Bool :=
  let isStrong (character : Char) := isRightToLeft character || isArabic character
  let isNumber (character : Char) := isEuropean character || isArabic character
  !label.any isStrong ||
    (label.head?.any isRightToLeft &&
      label.all (fun character => isStrong character || isEuropean character ||
        isNeutral character || isNonspacing character) &&
      (label.reverse.dropWhile isNonspacing).head?.any
        (fun character => isRightToLeft character || isNumber character) &&
      !(label.any isEuropean && label.any isArabic))

/-- Whether dashes stand only where they do not take a label for something else. -/
def hasPlainDashes (label : List Char) : Bool :=
  label.head? ≠ some '-' && label.getLast? ≠ some '-' &&
    (label.drop 2).take 2 ≠ ['-', '-']

def isLabel (label : List Char) : Bool :=
  !label.isEmpty && allFit [] label && hasPlainDashes label &&
    !label.head?.any Text.Composition.isMark && isOneWay label &&
    Text.Composition.compose label == label

/-- Whether characters of ASCII form a label, by themselves or for another script. -/
def isPlainLabel (label : List Char) : Bool :=
  let label := label.map Char.toLower
  match Text.dropStart? mark label with
  | none => isLabel label
  | some form =>
      form.getLast?.any (· != '-') && (Text.Punycode.decode? form).any isLabel

def encodeLabel? (label : List Char) : Option (List Char) :=
  let isPlain := label.all fun character => character.toNat < 128
  let form := if isPlain then label else mark ++ Text.Punycode.encode label
  if (if isPlain then isPlainLabel label else isLabel label) && form.length ≤ labelLimit then
    some form
  else none

/-- The form of a name in ASCII.  A dot may stand at its end. -/
def encode? (name : List Char) : Option (List Char) := do
  let labels := Text.splitBy isDot name
  let (labels, last) := if labels.getLast? = some [] then (labels.dropLast, ['.'])
    else (labels, [])
  let forms ← labels.mapM encodeLabel?
  let form := (forms.intersperse ['.']).flatten
  if labels.isEmpty || nameLimit < form.length then none
  else some (form ++ last)

end Montage.Server.DomainName
