import Montage.Json.Value

/-!
# Overlay positions

Where overlay text is drawn: at one of nine named places, or at explicit
coordinate expressions.
-/

namespace Montage

/-- Requested overlay positions. -/
inductive Position where
  | named (name : String)
  | coordinates (entries : List (String × String))
  deriving DecidableEq, Inhabited

namespace Position

def margin : String := "50"

def centerX : String := "(w-text_w)/2"

def centerY : String := "(h-text_h)/2"

def right : String := "w-text_w-50"

def bottom : String := "h-text_h-50"

/-- The named places with their horizontal and vertical expressions. -/
def places : List (String × String × String) := [
  ("top-left", margin, margin),
  ("top-center", centerX, margin),
  ("top-right", right, margin),
  ("middle-left", margin, centerY),
  ("middle-center", centerX, centerY),
  ("middle-right", right, centerY),
  ("bottom-left", margin, bottom),
  ("bottom-center", centerX, bottom),
  ("bottom-right", right, bottom)]

def defaultName : String := "middle-center"

/-- The horizontal and vertical expressions of a position.  A missing axis and
everything unknown mean the middle of the frame. -/
def expressions : Position → String × String
  | .named name => (places.lookup name).getD (centerX, centerY)
  | .coordinates entries =>
      ((entries.lookup "x").getD centerX, (entries.lookup "y").getD centerY)

def ofJson : Json → Position
  | .text name => .named name
  | .object members =>
      .coordinates (members.map fun (axis, value) => (axis, value.display))
  | _ => .named ""

end Position

end Montage
