import Montage.Filter.Program
import Montage.Timeline.Resolved
import Montage.Video.Scaling

/-!
# Filter graphs of timelines

The inputs and the filter program for a resolved timeline.  Pictures are fitted into
the frame and joined, texts are drawn over them in order, the sound of the clips is
joined, and audio clips are placed and mixed in.
-/

namespace Montage.Filter

/-- An input file with the options in front of it. -/
structure MediaInput where
  path : Path
  options : List String
  deriving DecidableEq, Inhabited

namespace MediaInput

def arguments (input : MediaInput) : List String :=
  input.options ++ ["-i", input.path.toString]

end MediaInput

/-- A compiled timeline. -/
structure Graph where
  inputs : List MediaInput
  program : Program
  videoLabel : String
  audioLabel : Option String
  deriving Inhabited

namespace Graph

def hasAudio (graph : Graph) : Bool :=
  graph.audioLabel.isSome

end Graph

/-- Reasons why a timeline has no graph. -/
inductive BuildError where
  | graph (reason : GraphError)
  | fault (fault : Fault)
  deriving DecidableEq, Repr, Inhabited

/-- What a timeline is compiled for. -/
structure Frame where
  width : Int
  height : Int
  fontsDirectory : Option Path
  imageFrameRate : Int
  scaling : ScalingMode
  deriving Inhabited

/-- A graph under construction: its inputs and statements, the labels of the pictures
and clip sounds with their durations, and the labels of the audio clips. -/
structure Builder where
  inputs : List MediaInput
  program : Program
  pictures : List (String × Binary64)
  sounds : List (String × Binary64)
  overlays : List String
  deriving Inhabited

namespace Builder

/-- The graph before the first item. -/
def empty : Builder := ⟨[], .empty 0, [], [], []⟩

def numbered (letter : String) (number : Nat) : String :=
  letter ++ Decimal.ofInt number

def absentFile : Path := .ofString "None"

def addInput (builder : Builder) (path : Option Path) (options : List String) :
    Builder × Int :=
  let inputs := builder.inputs ++ [⟨path.getD absentFile, options⟩]
  ({ builder with
      inputs, program := { builder.program with inputCount := inputs.length } },
    builder.inputs.length)

def addStatement (builder : Builder) (statement : Statement) :
    Except BuildError Builder :=
  match builder.program.add? statement with
  | .ok program => .ok { builder with program }
  | .error reason => .error (.graph reason)

def addPicture (frame : Frame) (builder : Builder) (index : Int)
    (scaling : Option ScalingMode) (duration : Binary64) :
    Except BuildError Builder := do
  let label := numbered "v" builder.pictures.length
  let chain := (scaling.getD frame.scaling).chain frame.width frame.height
  let builder ← builder.addStatement
    ⟨[.stream ⟨index, "v"⟩], label, .scale chain⟩
  .ok { builder with pictures := builder.pictures ++ [(label, duration)] }

/-- A video clip: its picture, and its sound when it is heard. -/
def addVideo (frame : Frame) (builder : Builder) (resolved : ResolvedItem)
    (clip : VideoClip) : Except BuildError Builder := do
  let (builder, index) := builder.addInput resolved.path
    ["-ss", Decimal.amount resolved.cutStart, "-t", Decimal.amount resolved.duration]
  let builder ← builder.addPicture frame index clip.scaling resolved.duration
  if 0 < clip.volume ∧ resolved.hasAudio then
    let label := numbered "a" builder.sounds.length
    let builder ← builder.addStatement
      ⟨[.stream ⟨index, "a"⟩], label, .volume (clip.volume / 100)⟩
    .ok { builder with sounds := builder.sounds ++ [(label, resolved.duration)] }
  else .ok builder

def addImage (frame : Frame) (builder : Builder) (resolved : ResolvedItem)
    (clip : ImageClip) : Except BuildError Builder :=
  let (builder, index) := builder.addInput resolved.path
    ["-framerate", Decimal.ofInt frame.imageFrameRate, "-loop", "1", "-t",
      Decimal.amount resolved.duration]
  builder.addPicture frame index clip.scaling resolved.duration

def addAudio (builder : Builder) (resolved : ResolvedItem) (clip : AudioClip) :
    Except BuildError Builder := do
  let trim :=
    (if 0 < resolved.cutStart then ["-ss", Decimal.amount resolved.cutStart]
      else []) ++ ["-t", Decimal.amount resolved.duration]
  let (builder, index) := builder.addInput resolved.path trim
  let label := numbered "o" builder.overlays.length
  match (resolved.start * 1000).round with
  | .error reason => .error (.fault (.ofNumeric reason))
  | .ok delay =>
      let factor := if clip.volume.equal fullVolume then none
        else some (clip.volume / 100)
      let builder ← builder.addStatement
        ⟨[.stream ⟨index, "a"⟩], label, .place delay factor⟩
      .ok { builder with overlays := builder.overlays ++ [label] }

def addItem (frame : Frame) (builder : Builder) (resolved : ResolvedItem) :
    Except BuildError Builder :=
  match resolved.item with
  | .video clip => builder.addVideo frame resolved clip
  | .image clip => builder.addImage frame resolved clip
  | .audio clip => builder.addAudio resolved clip
  | .text _ => .ok builder

/-- One picture label for all pictures: a lone picture itself, or all of them joined
in order. -/
def reduceVideo (builder : Builder) : Except BuildError (Builder × String) :=
  match builder.pictures with
  | [] => .error (.graph .noVideo)
  | [(label, _)] => .ok (builder, label)
  | pictures => do
      let builder ← builder.addStatement
        ⟨pictures.map fun (label, _) => .label label, "vcat",
          .concat (pictures.map (·.2)) false⟩
      .ok (builder, "vcat")

def addText (frame : Frame) (builder : Builder) (picture : String) (number : Nat)
    (resolved : ResolvedItem) (overlay : TextOverlay) :
    Except BuildError (Builder × String) :=
  match TextStyle.find? overlay.style overlay.fontSize with
  | none => .error (.graph (.unknownStyle overlay.style))
  | some style => do
      let (x, y) := overlay.position.expressions
      let label := numbered "t" number
      let fontFile := frame.fontsDirectory.map fun directory =>
        (style.fontPath directory).toString
      let drawing := ⟨overlay.text, style, fontFile, x, y, resolved.start, resolved.duration⟩
      let builder ← builder.addStatement
        ⟨[.label picture], label, .drawText drawing⟩
      .ok (builder, label)

/-- Texts drawn over a picture one after the other, counted from `number`. -/
def addTexts (frame : Frame) : Builder → String → Nat → List ResolvedItem →
    Except BuildError (Builder × String)
  | builder, picture, _, [] => .ok (builder, picture)
  | builder, picture, number, resolved :: rest =>
      match resolved.item with
      | .text overlay => do
          let (builder, picture) ←
            builder.addText frame picture number resolved overlay
          addTexts frame builder picture (number + 1) rest
      | _ => addTexts frame builder picture number rest

/-- The label of the joined sound of the clips: none, a lone sound itself, or all of
them joined in order. -/
def reduceSounds (builder : Builder) : Except BuildError (Builder × List String) :=
  match builder.sounds with
  | [] => .ok (builder, [])
  | [(label, _)] => .ok (builder, [label])
  | sounds => do
      let builder ← builder.addStatement
        ⟨sounds.map fun (label, _) => .label label, "acat",
          .concat (sounds.map (·.2)) true⟩
      .ok (builder, ["acat"])

/-- One sound label for clips and audio clips together, if there is any sound. -/
def reduceAudio (builder : Builder) :
    Except BuildError (Builder × Option String) := do
  let (builder, joined) ← builder.reduceSounds
  match joined ++ builder.overlays with
  | [] => .ok (builder, none)
  | [source] =>
      let builder ← builder.addStatement ⟨[.label source], "aout", .resample⟩
      .ok (builder, some "aout")
  | sources =>
      let builder ← builder.addStatement
        ⟨sources.map .label, "aout", .mix⟩
      .ok (builder, some "aout")

end Builder

namespace Graph

def build (frame : Frame) (timeline : ResolvedTimeline) : Except BuildError Graph := do
  let builder ← timeline.items.foldlM (Builder.addItem frame) Builder.empty
  let (builder, picture) ← builder.reduceVideo
  let (builder, video) ← builder.addTexts frame picture 0 timeline.items
  let (builder, audio) ← builder.reduceAudio
  match builder.program.validate video audio with
  | .error reason => .error (.graph reason)
  | .ok () => .ok ⟨builder.inputs, builder.program, video, audio⟩

end Graph

end Montage.Filter
