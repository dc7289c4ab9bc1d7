import Montage.Filter.Quoting
import Montage.Numeric.Decimal
import Montage.Overlay.Style

/-!
# Filter statements

The statements of a filter graph.  A statement reads raw input streams or labels of
earlier statements, and gives its own result a label.
-/

namespace Montage.Filter

/-- A raw stream of an input, such as `0:v` or `2:a`. -/
structure StreamRef where
  index : Int
  kind : String
  deriving DecidableEq, Repr, Inhabited

namespace StreamRef

def toString (stream : StreamRef) : String :=
  Decimal.ofInt stream.index ++ ":" ++ stream.kind

end StreamRef

/-- What a statement reads. -/
inductive Pad where
  | stream (reference : StreamRef)
  | label (name : String)
  deriving DecidableEq, Repr, Inhabited

namespace Pad

def toString : Pad → String
  | .stream reference => reference.toString
  | .label name => name

def label? : Pad → Option String
  | .stream _ => none
  | .label name => some name

end Pad

/-- Overlay text with everything that its drawing depends on. -/
structure Drawing where
  text : String
  style : TextStyle
  fontFile : Option String
  x : String
  y : String
  start : Binary64
  duration : Binary64
  deriving DecidableEq, Inhabited

/-- What a statement does with its inputs. -/
inductive Operation where
  | unspecified
  | scale (chain : String)
  | volume (factor : Binary64)
  | place (delay : Int) (factor : Option Binary64)
  | concat (durations : List Binary64) (audio : Bool)
  | drawText (drawing : Drawing)
  | resample
  | mix
  deriving DecidableEq, Inhabited

/-- One statement of a filter graph. -/
structure Statement where
  inputs : List Pad
  output : String
  operation : Operation
  deriving DecidableEq, Inhabited

def mixDropout : Int := 2

namespace Drawing

/-- The condition under which text is shown: from its start up to, but not
including, its end. -/
def enabling (drawing : Drawing) : String :=
  let start := Decimal.amount drawing.start
  let finish := Decimal.amount (drawing.start + drawing.duration)
  s!"gte(t,{start})*lt(t,{finish})"

def present (text : Option String) : Option String :=
  text.filter fun text => !text.isEmpty

def options (drawing : Drawing) : List String :=
  let style := drawing.style
  let font := match drawing.fontFile with
    | some file => ["fontfile=" ++ quote file]
    | none => []
  let border := match present style.borderColor with
    | some color =>
        if style.borderWidth = 0 then []
        else ["bordercolor=" ++ color, "borderw=" ++ Decimal.ofInt style.borderWidth]
    | none => []
  let box := match present style.boxColor with
    | some color =>
        ["box=1", "boxcolor=" ++ color] ++
          (if style.boxBorderWidth = 0 then []
            else ["boxborderw=" ++ Decimal.ofInt style.boxBorderWidth])
    | none => []
  font ++
    ["fontsize=" ++ Decimal.ofInt style.fontSize, "fontcolor=" ++ style.fontColor,
      "x=" ++ quote drawing.x, "y=" ++ quote drawing.y,
      "text=" ++ quoteText drawing.text, "enable=" ++ quote drawing.enabling] ++
    border ++ box

end Drawing

namespace Statement

def segments (statement : Statement) : List (String × Binary64) :=
  match statement.operation with
  | .concat durations _ => (statement.inputs.map Pad.toString).zip durations
  | _ => []

def bracketed (label : String) : String :=
  "[" ++ label ++ "]"

def hold (audio : Bool) (duration : Binary64) : String :=
  let seconds := Decimal.amount duration
  if audio then s!"apad,atrim=duration={seconds},asetpts=PTS-STARTPTS"
  else s!"trim=duration={seconds},setpts=PTS-STARTPTS"

def heldLabel (output : String) (index : Nat) : String :=
  output ++ "_s" ++ Decimal.ofInt index

/-- The filter chains of a statement that joins segments: one for each segment, and
the one that joins them. -/
def concatChains (statement : Statement) (audio : Bool) : List String :=
  let segments := statement.segments.zipIdx
  let chains := segments.map fun ((label, duration), index) =>
    bracketed label ++ hold audio duration ++
      bracketed (heldLabel statement.output index)
  let held := segments.map fun (_, index) =>
    bracketed (heldLabel statement.output index)
  let count := Decimal.ofInt statement.inputs.length
  let streams := if audio then "v=0:a=1" else "v=1:a=0"
  chains ++ [String.join held ++ "concat=n=" ++ count ++ ":" ++ streams ++
    bracketed statement.output]

/-- The filters of an operation that reads all its inputs in one chain. -/
def body? (statement : Statement) : Option String :=
  match statement.operation with
  | .unspecified => none
  | .scale chain => some chain
  | .volume factor => some ("volume=" ++ Decimal.amount factor)
  | .place delay factor =>
      let parts :=
        (if 0 < delay then ["adelay=" ++ Decimal.ofInt delay ++ ":all=1"] else []) ++
          (match factor with
            | some factor => ["volume=" ++ Decimal.amount factor]
            | none => [])
      some (if parts.isEmpty then "anull" else Text.join "," parts)
  | .concat _ _ => none
  | .drawText drawing => some ("drawtext=" ++ Text.join ":" drawing.options)
  | .resample => some "aresample=async=1"
  | .mix =>
      let count := Decimal.ofInt statement.inputs.length
      let dropout := Decimal.ofInt mixDropout
      some s!"amix=inputs={count}:duration=longest:dropout_transition={dropout}"

def render? (statement : Statement) : Option String :=
  match statement.operation with
  | .concat _ audio => some (Text.join ";" (statement.concatChains audio))
  | _ => (body? statement).map fun body =>
      String.join (statement.inputs.map fun pad => bracketed pad.toString) ++ body ++
        bracketed statement.output

def className (statement : Statement) : String :=
  match statement.operation with
  | .unspecified => "FilterStatement"
  | .scale _ => "ScaleStatement"
  | .volume _ => "VolumeStatement"
  | .place _ _ => "AudioPlacementStatement"
  | .concat _ _ => "ConcatStatement"
  | .drawText _ => "DrawTextStatement"
  | .resample => "ResampleStatement"
  | .mix => "MixStatement"

end Statement

end Montage.Filter
