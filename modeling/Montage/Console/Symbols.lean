import Montage.Console.Table.Symbols
import Montage.Text.Percent

/-!
# Symbol names

A name between colons is printed as the symbol it stands for.  Names of people and their
hands may end in a skin tone, and flags may be called flags.
-/

namespace Montage.Console.Symbols

def pairs : List (List Char) → List (String × String)
  | first :: second :: rest =>
      (String.ofList first, String.ofList second) :: pairs rest
  | _ => []

def entries (table : String) : List (String × String) :=
  pairs ((Text.splitBy Text.isBlank table.toList).filter fun word => !word.isEmpty)

def flags : List (String × String) := entries Table.flags

def people : List (String × String) := entries Table.people

def others : List (String × String) :=
  entries Table.symbolsAToD ++ entries Table.symbolsEToL ++ entries Table.symbolsMToQ ++
    entries Table.symbolsRToZ

def hexNumber (digits : List Char) : Nat :=
  digits.foldl (fun number digit => 16 * number + (Text.Percent.hexValue? digit).getD 0) 0

def ofCodePoints (text : String) : List Char :=
  (Text.splitBy (· == '-') text.toList).map fun digits => Char.ofNat (hexNumber digits)

def ofLetters (letters : String) : List Char :=
  letters.toList.map fun letter => Char.ofNat (letter.toNat - 65 + 127462)

def skinTones : List (String × Nat) := [
  ("_medium-light_skin_tone", 127996), ("_medium-dark_skin_tone", 127998),
  ("_light_skin_tone", 127995), ("_medium_skin_tone", 127997), ("_dark_skin_tone", 127999)]

def dropEnding? (ending name : List Char) : Option (List Char) :=
  (Text.dropStart? ending.reverse name.reverse).map List.reverse

/-- A symbol in a skin tone, whose mark comes after its first character in place of a
variation mark. -/
def inTone (tone : Nat) : List Char → List Char
  | [] => []
  | first :: rest => first :: Char.ofNat tone :: rest.dropWhile (· == '\uFE0F')

def toned? (name : List Char) : Option (List Char) :=
  skinTones.findSome? fun (ending, tone) => do
    let base ← dropEnding? ending.toList name
    let points ← people.lookup (String.ofList base)
    some (inTone tone (ofCodePoints points))

def flag? (name : List Char) : Option (List Char) :=
  let bare := (Text.dropStart? "flag_for_".toList name).getD name
  (flags.lookup (String.ofList bare)).map ofLetters

def symbol? (name : String) : Option (List Char) :=
  (((others.lookup name).or (people.lookup name)).map ofCodePoints).or
    ((flag? name.toList).or (toned? name.toList))

/-- The wishes for emoji or text form that may end a name, with their marks. -/
def variants : List (String × Char) := [("-emoji", '\uFE0F'), ("-text", '\uFE0E')]

/-- The symbol of a name between colons in any case, which may end in a wish for emoji or
text form. -/
def named? (name : List Char) : Option (List Char) :=
  let wish := variants.findSome? fun (ending, mark) =>
    (dropEnding? ending.toList name).map fun bare => (bare, [mark])
  let (bare, mark) := wish.getD (name, [])
  (symbol? (Text.lowercase (String.ofList bare))).map (· ++ mark)

/-- The characters of a name up to the colon that ends it, with what follows the
colon. -/
def takeName? : List Char → Option (List Char × List Char)
  | [] => none
  | character :: rest =>
      if character = ':' then some ([], rest)
      -- A name holds no white space, so that a colon in a sentence opens none.
      else if Text.isBlank character then none
      else (takeName? rest).map fun (name, beyond) => (character :: name, beyond)

theorem takeName?_length {characters name beyond : List Char}
    (taken : takeName? characters = some (name, beyond)) :
    beyond.length < characters.length := by
  induction characters generalizing name with
  | nil => simp [takeName?] at taken
  | cons character rest ih =>
      simp only [takeName?] at taken
      split at taken
      · simp_all
      · split at taken
        · simp at taken
        · simp only [Option.map_eq_some_iff, Prod.mk.injEq] at taken
          obtain ⟨⟨inner, after⟩, found, -, rfl⟩ := taken
          have shorter := ih found
          simp only [List.length_cons] at shorter ⊢
          omega

/-- Characters with every known name between colons replaced by its symbol. -/
def replaceCharacters : List Char → List Char
  | [] => []
  | character :: rest =>
      if character = ':' then
        match taken : takeName? rest with
        | some (name, beyond) =>
            have _shorter := takeName?_length taken
            -- The second colon of an unknown name opens no other one.
            (named? name).getD (':' :: name ++ [':']) ++ replaceCharacters beyond
        | none => character :: replaceCharacters rest
      else character :: replaceCharacters rest
termination_by characters => characters.length
decreasing_by
  · simp only [List.length_cons]
    omega
  · simp
  · simp

def replace (text : String) : String :=
  String.ofList (replaceCharacters text.toList)

end Montage.Console.Symbols
