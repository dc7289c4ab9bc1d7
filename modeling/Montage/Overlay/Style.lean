import Montage.Path

/-!
# Text styles

The styles that overlays are drawn in.  A style is a preset chosen by name, with an
optional font size of its own.
-/

namespace Montage

/-- How overlay text is drawn. -/
structure TextStyle where
  fontColor : String := "white"
  fontSize : Int := 72
  fontFile : String := "Roboto-Regular.ttf"
  borderColor : Option String := none
  borderWidth : Int := 0
  boxColor : Option String := none
  boxBorderWidth : Int := 0
  deriving DecidableEq, Inhabited

namespace TextStyle

def basic : TextStyle := ⟨"white", 72, "Roboto-Regular.ttf", none, 0, none, 0⟩

def presets : List (String × TextStyle) := [
  ("basic", basic),
  ("outlined", ⟨"white", 72, "Roboto-Bold.ttf", some "black", 3, none, 0⟩),
  ("dark", ⟨"black", 72, "Roboto-Medium.ttf", none, 0, none, 0⟩),
  ("tiktok",
    ⟨"white", 72, "Roboto-Black.ttf", some "black", 4, some "black@0.5", 10⟩),
  ("subtitle", ⟨"white", 48, "Roboto-Medium.ttf", some "black", 2, none, 0⟩)]

def defaultName : String := "basic"

/-- The preset with a given name, with the font size replaced unless none or zero is
asked for. -/
def find? (name : String) (fontSize : Option Int) : Option TextStyle :=
  (presets.lookup (if name.isEmpty then defaultName else name)).map fun style =>
    match fontSize with
    | none => style
    | some size => if size = 0 then style else { style with fontSize := size }

def fontPath (style : TextStyle) (directory : Path) : Path :=
  directory.child style.fontFile

end TextStyle

end Montage
