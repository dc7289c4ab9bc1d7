import Montage.Document.Basic
import Montage.Document.Reading
import Montage.Filter.Graph
import Montage.Overlay.Style
import Montage.Probe.Report
import Montage.Timeline.Resolved

/-!
# Documents of compositions

What a composition, its placement in time and its filter graph look like to others.
-/

namespace Montage

open Document

/-- The document of a cut that may be missing. -/
def Cut.document (cut : Option Cut) : Json :=
  match cut with
  | some (.between start finish) => .array [ofNumber start, ofNumber finish]
  | some .whole => .array []
  | none => .null

def Position.document : Position → Json
  | .named name => .text name
  | .coordinates entries =>
      .object (entries.map fun (key, expression) => (key, .text expression))

def ScalingMode.document (mode : Option ScalingMode) : Json :=
  ofText? (mode.map ScalingMode.name)

def TimelineItem.document : TimelineItem → Json
  | .video clip => .object [
      ("type", .text "video"),
      ("filename", .text clip.filename),
      ("cut", Cut.document clip.cut),
      ("volume", ofNumber clip.volume),
      ("scaling", ScalingMode.document clip.scaling)]
  | .image clip => .object [
      ("type", .text "image"),
      ("filename", .text clip.filename),
      ("duration", ofNumber clip.duration),
      ("scaling", ScalingMode.document clip.scaling)]
  | .audio clip => .object [
      ("type", .text "audio"),
      ("filename", .text clip.filename),
      ("start_time", ofNumber? clip.startTime),
      ("cut", Cut.document clip.cut),
      ("duration", ofNumber? clip.duration),
      ("volume", ofNumber clip.volume)]
  | .text overlay => .object [
      ("type", .text "text"),
      ("text", .text overlay.text),
      ("style", .text overlay.style),
      ("font_size", ofInt? overlay.fontSize),
      ("position", overlay.position.document),
      ("start_time", ofNumber overlay.startTime),
      ("duration", ofNumber overlay.duration)]

def Cut.ofDocument? : Json → Option Cut
  | .array [start, finish] => some (.between start.asNumber finish.asNumber)
  | .array [] => some .whole
  | _ => none

/-- The scaling mode in a document.  The empty name is none. -/
def ScalingMode.ofDocument? : Json → Option ScalingMode
  | .text name => if name.isEmpty then none else some (ofName name)
  | _ => none

def RenderSpec.document (spec : RenderSpec) : Json :=
  .object [
    ("width", .integer spec.width),
    ("height", .integer spec.height),
    ("quality", .text spec.quality),
    ("extension", .text spec.extension),
    ("scaling", .text spec.scaling.name),
    ("subtitles", ofText? spec.subtitles),
    ("items", .array (spec.timeline.map (·.document)))]

/-- The timeline item in a document.  What is missing gets its standard value. -/
def TimelineItem.ofDocument (document : Json) : TimelineItem :=
  let filename := document.textAt "filename"
  let volume := (document.numberAt? "volume").getD fullVolume
  let cut := Cut.ofDocument? (document.field "cut")
  let scaling := ScalingMode.ofDocument? (document.field "scaling")
  match document.textAt "type" with
  | "video" => .video ⟨filename, cut, volume, scaling⟩
  | "image" =>
      let duration := (document.numberAt? "duration").getD defaultImageDuration
      .image ⟨filename, duration, scaling⟩
  | "audio" =>
      .audio ⟨filename, document.numberAt? "start_time", cut,
        document.numberAt? "duration", volume⟩
  | _ =>
      let position := match document.get? "position" with
        | some position => Position.ofJson position
        | none => .named Position.defaultName
      .text ⟨document.textAt "text",
        (document.textAt? "style").getD TextStyle.defaultName,
        document.wholeAt? "font_size", position, document.numberAt "start_time",
        (document.numberAt? "duration").getD defaultTextDuration⟩

def TimelineItem.kindName : TimelineItem → String
  | .video _ => "VideoClip"
  | .image _ => "ImageClip"
  | .audio _ => "AudioClip"
  | .text _ => "TextOverlay"

def ResolvedItem.members (item : ResolvedItem) : List (String × Json) := [
  ("type", .text item.item.kindName),
  ("start", ofNumber item.start),
  ("duration", ofNumber item.duration),
  ("path", ofText? (item.path.map Path.toString))]

def ResolvedItem.document (item : ResolvedItem) : Json :=
  .object (item.members ++ [
    ("end", ofNumber item.finish),
    ("has_audio", .boolean item.hasAudio),
    ("cut_start", ofNumber item.cutStart)])

def ResolvedTimeline.document (timeline : ResolvedTimeline) : Json :=
  .object [
    ("total_duration", ofNumber timeline.totalDuration),
    ("items", .array (timeline.items.map (·.document)))]

def Filter.Graph.document (graph : Filter.Graph) : Json :=
  .object [
    ("inputs", .array (graph.inputs.map fun input => ofTexts input.arguments)),
    ("statements", .array (graph.program.statements.map fun statement =>
      ofTexts [statement.className, statement.render?.getD ""])),
    ("video_label", .text graph.videoLabel),
    ("audio_label", ofText? graph.audioLabel),
    ("has_audio", .boolean graph.hasAudio)]

def TextStyle.document (style : TextStyle) : Json :=
  .object [
    ("font_color", .text style.fontColor),
    ("font_size", .integer style.fontSize),
    ("font_file", .text style.fontFile),
    ("border_color", ofText? style.borderColor),
    ("border_width", .integer style.borderWidth),
    ("box_color", ofText? style.boxColor),
    ("box_border_width", .integer style.boxBorderWidth)]

def ProbeResult.document (result : ProbeResult) : Json :=
  .object [
    ("duration", ofNumber result.duration),
    ("has_audio", .boolean result.hasAudio),
    ("has_video", .boolean result.hasVideo),
    ("width", .integer result.width),
    ("height", .integer result.height)]

end Montage
