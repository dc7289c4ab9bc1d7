import Montage.Config
import Montage.Filter.Graph

/-!
# Encoder commands

The command that encodes a compiled timeline into an output file.
-/

namespace Montage.Encode

def streamableExtensions : List String := ["mp4", "mov", "m4v"]

def mapArguments (graph : Filter.Graph) : List String :=
  let streams := graph.videoLabel :: graph.audioLabel.toList
  streams.flatMap fun label => ["-map", "[" ++ label ++ "]"]

def videoArguments (encoding : EncodingConfig) (quality : String) : List String := [
  "-c:v", encoding.videoCodec, "-crf", quality, "-preset", encoding.preset, "-r",
  Decimal.ofInt encoding.frameRate, "-pix_fmt", encoding.pixelFormat, "-profile:v",
  encoding.profile, "-level", encoding.level, "-maxrate", encoding.maxRate, "-bufsize",
  encoding.bufferSize, "-fps_mode", "cfr"]

def audioArguments (encoding : EncodingConfig) (graph : Filter.Graph) : List String :=
  if graph.hasAudio then
    ["-c:a", encoding.audioCodec, "-b:a", encoding.audioBitrate]
  else ["-an"]

def command (encoding : EncodingConfig) (graph : Filter.Graph) (output : Path)
    (quality extension : String) : List String :=
  ["ffmpeg", "-y", "-hide_banner"] ++ graph.inputs.flatMap Filter.MediaInput.arguments ++
    ["-filter_complex", graph.program.render] ++ mapArguments graph ++
    videoArguments encoding quality ++
    (if Text.lowercase extension ∈ streamableExtensions then
      ["-movflags", "+faststart"] else []) ++
    audioArguments encoding graph ++
    ["-progress", "pipe:1", "-nostats", output.toString]

end Montage.Encode
