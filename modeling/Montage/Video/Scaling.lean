import Montage.Numeric.Decimal
import Montage.Text.Basic

/-!
# Fitting pictures into a frame

The five ways to fit a picture into the frame of a composition, and the encoder
filter chain for each.  Every chain ends with square pixels, so that fitted clips
can be joined.
-/

namespace Montage

/-- Ways to fit a picture into a frame. -/
inductive ScalingMode where
  | fill
  | contain
  | cover
  /-- Like `contain`, but never enlarged. -/
  | scaleDown
  /-- Native size, reduced only along sides that exceed the frame, padded. -/
  | native
  deriving DecidableEq, Repr, Inhabited

namespace ScalingMode

def all : List ScalingMode := [.fill, .contain, .cover, .scaleDown, .native]

def name : ScalingMode → String
  | .fill => "fill"
  | .contain => "contain"
  | .cover => "cover"
  | .scaleDown => "scale-down"
  | .native => "none"

def ofName? (name : String) : Option ScalingMode :=
  all.find? (·.name == name)

def ofName (name : String) : ScalingMode :=
  (ofName? name).getD .cover

def padding (width height : String) : String :=
  s!"pad={width}:{height}:(({width}-iw)/2):(({height}-ih)/2)"

/-- The filters that fit a picture into a frame of a given size. -/
def filters (mode : ScalingMode) (width height : Int) : List String :=
  let w := Decimal.ofInt width
  let h := Decimal.ofInt height
  let wider := s!"gte(iw/ih,{w}/{h})"
  let fitted := match mode with
    | .fill => [s!"scale={w}:{h}"]
    | .contain =>
        [s!"scale='if({wider},{w},-1)':'if({wider},-1,{h})'", padding w h]
    | .scaleDown =>
        [s!"scale='if({wider},min(iw,{w}),-1)':'if({wider},-1,min(ih,{h}))'",
          padding w h]
    | .native =>
        [s!"scale='if(gt(iw,{w}),{w},-1)':'if(gt(ih,{h}),{h},-1)'", padding w h]
    | .cover =>
        [s!"scale='if({wider},-1,{w})':'if({wider},{h},-1)'", s!"crop={w}:{h}"]
  fitted ++ ["setsar=1"]

def chain (mode : ScalingMode) (width height : Int) : String :=
  Text.join "," (mode.filters width height)

end ScalingMode

end Montage
