import Montage.Numeric.Numeral

/-!
# Style names

A style is written as words for its attributes, colours and link.  Styles with the same
effect have one canonical name, under which opening and closing tags are matched.
-/

namespace Montage.Console.Table

def colors : String :=
"black red green yellow blue magenta cyan white bright_black bright_red bright_green
bright_yellow bright_blue bright_magenta bright_cyan bright_white grey0 gray0 navy_blue
dark_blue blue3 blue1 dark_green deep_sky_blue4 dodger_blue3 dodger_blue2 green4
spring_green4 turquoise4 deep_sky_blue3 dodger_blue1 green3 spring_green3 dark_cyan
light_sea_green deep_sky_blue2 deep_sky_blue1 spring_green2 cyan3 dark_turquoise
turquoise2 green1 spring_green1 medium_spring_green cyan2 cyan1 dark_red deep_pink4
purple4 purple3 blue_violet orange4 grey37 gray37 medium_purple4 slate_blue3 royal_blue1
chartreuse4 dark_sea_green4 pale_turquoise4 steel_blue steel_blue3 cornflower_blue
chartreuse3 cadet_blue sky_blue3 steel_blue1 pale_green3 sea_green3 aquamarine3
medium_turquoise chartreuse2 sea_green2 sea_green1 aquamarine1 dark_slate_gray2
dark_magenta dark_violet purple light_pink4 plum4 medium_purple3 slate_blue1 yellow4
wheat4 grey53 gray53 light_slate_grey light_slate_gray medium_purple light_slate_blue
dark_olive_green3 dark_sea_green light_sky_blue3 sky_blue2 dark_sea_green3
dark_slate_gray3 sky_blue1 chartreuse1 light_green pale_green1 dark_slate_gray1 red3
medium_violet_red magenta3 dark_orange3 indian_red hot_pink3 medium_orchid3
medium_orchid medium_purple2 dark_goldenrod light_salmon3 rosy_brown grey63 gray63
medium_purple1 gold3 dark_khaki navajo_white3 grey69 gray69 light_steel_blue3
light_steel_blue yellow3 dark_sea_green2 light_cyan3 light_sky_blue1 green_yellow
dark_olive_green2 dark_sea_green1 pale_turquoise1 deep_pink3 magenta2 hot_pink2 orchid
medium_orchid1 orange3 light_pink3 pink3 plum3 violet light_goldenrod3 tan misty_rose3
thistle3 plum2 khaki3 light_goldenrod2 light_yellow3 grey84 gray84 light_steel_blue1
yellow2 dark_olive_green1 honeydew2 light_cyan1 red1 deep_pink2 deep_pink1 magenta1
orange_red1 indian_red1 hot_pink dark_orange salmon1 light_coral pale_violet_red1
orchid2 orchid1 orange1 sandy_brown light_salmon1 light_pink1 pink1 plum1 gold1
navajo_white1 misty_rose1 thistle1 yellow1 light_goldenrod1 khaki1 wheat1 cornsilk1
grey100 gray100 grey3 gray3 grey7 gray7 grey11 gray11 grey15 gray15 grey19 gray19 grey23
gray23 grey27 gray27 grey30 gray30 grey35 gray35 grey39 gray39 grey42 gray42 grey46
gray46 grey50 gray50 grey54 gray54 grey58 gray58 grey62 gray62 grey66 gray66 grey70
gray70 grey74 gray74 grey78 gray78 grey82 gray82 grey85 gray85 grey89 gray89 grey93
gray93"

end Montage.Console.Table

namespace Montage.Console.StyleName

/-- The attributes in canonical order, each with the words for it. -/
def attributes : List (String × List String) := [
  ("bold", ["bold", "b"]), ("dim", ["dim", "d"]), ("italic", ["italic", "i"]),
  ("underline", ["underline", "u"]), ("blink", ["blink"]), ("blink2", ["blink2"]),
  ("reverse", ["reverse", "r"]), ("conceal", ["conceal", "c"]),
  ("strike", ["strike", "s"]), ("underline2", ["underline2", "uu"]),
  ("frame", ["frame"]), ("encircle", ["encircle"]), ("overline", ["overline", "o"])]

def attribute? (word : String) : Option String :=
  (attributes.find? fun entry => entry.2.contains word).map (·.1)

def wordsOf (text : String) : List String :=
  ((Text.splitBy Text.isBlank text.toList).filter fun word => !word.isEmpty).map
    String.ofList

def colors : List String := "default" :: wordsOf Table.colors

/-- Reasons why words are not a style. -/
inductive Refusal where
  | noStyle
  | noNumber (part : String)
  deriving DecidableEq, Repr, Inhabited

def Refusal.part : Refusal → String
  | .noStyle => ""
  | .noNumber part => part

def inParentheses? (word : String) (text : List Char) : Option (List Char) := do
  let rest ← Text.dropStart? (word.toList ++ ['(']) text
  if rest.getLast? = some ')' then some rest.dropLast else none

def strengthLimit : Int := 255

/-- Whether parts between commas are three numbers that are not too great. -/
def readStrengths (parts : List (List Char)) : Except Refusal Unit :=
  if parts.length ≠ 3 then .error .noStyle
  else do
    let strengths ← parts.mapM fun part =>
      match Numeral.int? part with
      | some strength => .ok strength
      | none => .error (.noNumber (String.ofList part))
    if strengths.all (· ≤ strengthLimit) then .ok () else .error .noStyle

/-- Checks that a word in lower case is a colour: a name, a sharp sign and six hexadecimal
digits, a number, or three strengths. -/
def readColor (word : String) : Except Refusal Unit :=
  let isHex (digit : Char) : Bool := digit.isDigit || ('a' ≤ digit && digit ≤ 'f')
  if colors.contains word then .ok ()
  else match word.toList with
    | '#' :: digits =>
        if digits.length = 6 ∧ digits.all isHex then .ok () else .error .noStyle
    | characters =>
        match inParentheses? "color" characters, inParentheses? "rgb" characters with
        | some digits, _ =>
            if !digits.isEmpty && digits.length ≤ 3 && digits.all Char.isDigit &&
                Numeral.ofDigits (Numeral.takeDigits digits).1 ≤ 255 then .ok ()
            else .error .noStyle
        | none, some inside =>
            if !inside.isEmpty && inside.all fun character =>
                Text.isDecimalDigit character || character == ',' then
              readStrengths (Text.splitBy (· == ',') inside)
            else .error .noStyle
        | none, none => .error .noStyle

/-- What the words of a style say: attributes switched on or off, a colour, a background
and a link. -/
structure Parsed where
  switches : List (String × Bool) := []
  color : Option String := none
  background : Option String := none
  link : Option String := none
  deriving DecidableEq, Repr, Inhabited

/-- What the word in front and the words after it say after what was said before. -/
def parseWords (parsed : Parsed) : List String → Except Refusal Parsed
  | [] => .ok parsed
  | [written] =>
      let word := Text.lowercase written
      if word ∈ ["on", "not", "link"] then .error .noStyle
      else match attribute? word with
        | some name => .ok { parsed with switches := (name, true) :: parsed.switches }
        | none => do
            readColor word
            .ok { parsed with color := some word }
  | written :: next :: rest =>
      let word := Text.lowercase written
      if word = "on" then do
        let color := Text.lowercase next
        readColor color
        parseWords { parsed with background := some color } rest
      else if word = "not" then
        -- Words may be in any case, but not an attribute that is switched off.
        match attribute? next with
        | some name =>
            parseWords { parsed with switches := (name, false) :: parsed.switches } rest
        | none => .error .noStyle
      else if word = "link" then parseWords { parsed with link := some next } rest
      else match attribute? word with
        | some name =>
            parseWords { parsed with switches := (name, true) :: parsed.switches }
              (next :: rest)
        | none => do
            readColor word
            parseWords { parsed with color := some word } (next :: rest)

def parse (text : String) : Except Refusal Parsed :=
  if wordsOf text = ["none"] then .ok {} else parseWords {} (wordsOf text)

def canonical (parsed : Parsed) : String :=
  let switches := attributes.filterMap fun (name, _) =>
    (parsed.switches.lookup name).map fun isOn =>
      if isOn then name else "not " ++ name
  let words := switches ++ parsed.color.toList ++
    (parsed.background.map fun color => "on " ++ color).toList ++
    (parsed.link.map fun address => "link " ++ address).toList
  if words.isEmpty then "none" else Text.join " " words

/-- The canonical name of a style. -/
def normalize (style : String) : Except Refusal String :=
  match parse style with
  | .ok parsed => .ok (canonical parsed)
  -- A text that describes no style is only trimmed and lower-cased.
  | .error .noStyle => .ok (Text.lowercase (Text.trim style))
  | .error (.noNumber part) => .error (.noNumber part)

end Montage.Console.StyleName
