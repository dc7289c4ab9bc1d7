import Montage.Numeric.Numeral
import Montage.Overlay.Position
import Montage.Overlay.Style
import Montage.Video.Scaling

/-!
# Compositions

A composition is a list of video clips, still images, audio clips and text
overlays, together with the frame size and the options of its output.
-/

namespace Montage

/-- The part of a recording that is played. -/
inductive Cut where
  | between (start finish : Binary64)
  | whole
  deriving DecidableEq, Inhabited

def defaultImageDuration : Binary64 := 5

def defaultTextDuration : Binary64 := 5

def fullVolume : Binary64 := 100

/-- A recording with picture, played in sequence. -/
structure VideoClip where
  filename : String
  cut : Option Cut
  volume : Binary64
  scaling : Option ScalingMode
  deriving DecidableEq, Inhabited

/-- A still image, shown in sequence. -/
structure ImageClip where
  filename : String
  duration : Binary64
  scaling : Option ScalingMode
  deriving DecidableEq, Inhabited

/-- A recording without picture, laid over the sequence. -/
structure AudioClip where
  filename : String
  startTime : Option Binary64
  cut : Option Cut
  duration : Option Binary64
  volume : Binary64
  deriving DecidableEq, Inhabited

structure TextOverlay where
  text : String
  style : String
  fontSize : Option Int
  position : Position
  startTime : Binary64
  duration : Binary64
  deriving DecidableEq, Inhabited

/-- The entries of a composition. -/
inductive TimelineItem where
  | video (clip : VideoClip)
  | image (clip : ImageClip)
  | audio (clip : AudioClip)
  | text (overlay : TextOverlay)
  deriving DecidableEq, Inhabited

namespace TimelineItem

def filename? : TimelineItem → Option String
  | .video clip => some clip.filename
  | .image clip => some clip.filename
  | .audio clip => some clip.filename
  | .text _ => none

def cut? : TimelineItem → Option Cut
  | .video clip => clip.cut
  | .audio clip => clip.cut
  | .image _ => none
  | .text _ => none

end TimelineItem

/-- Reasons why a composition or a file name is turned down. -/
inductive Rejection where
  | malformedResolution
  | nonPositiveResolution (resolution : String)
  | emptyTimeline
  | unresolvedAsset (filename : String)
  | negativeCut (filename : String)
  | nonPositiveSegment (filename : String)
  | negativeStart (filename : String)
  | fileNotFound (filename : String)
  | invalidFilename (filename : String)
  deriving DecidableEq, Repr, Inhabited

namespace Rejection

def message : Rejection → String
  | .malformedResolution =>
      "Invalid resolution format. Expected 'widthxheight' (e.g. '1280x720')"
  | .nonPositiveResolution resolution => s!"Invalid resolution: {resolution}"
  | .emptyTimeline => "empty timeline"
  | .unresolvedAsset filename => s!"unresolved asset: {filename}"
  | .negativeCut filename =>
      s!"Invalid cut points for {filename}: start must not be negative"
  | .nonPositiveSegment filename => s!"non-positive segment: {filename}"
  | .negativeStart filename => s!"negative start time: {filename}"
  | .fileNotFound filename => s!"File not found: {filename}"
  | .invalidFilename filename => s!"Invalid filename: {filename}"

end Rejection

structure RenderSpec where
  width : Int
  height : Int
  timeline : List TimelineItem
  quality : String
  extension : String
  scaling : ScalingMode
  subtitles : Option String
  deriving Inhabited

namespace RenderSpec

/-- The width and height that a text such as `1280x720` gives. -/
def parseResolution (resolution : String) : Except Rejection (Int × Int) :=
  match Text.split 'x' (Text.lowercase resolution) with
  | [width, height] =>
      match Numeral.int? width.toList, Numeral.int? height.toList with
      | some width, some height =>
          if width ≤ 0 ∨ height ≤ 0 then
            .error (.nonPositiveResolution resolution)
          else .ok (width, height)
      | _, _ => .error .malformedResolution
  | _ => .error .malformedResolution

end RenderSpec

end Montage
