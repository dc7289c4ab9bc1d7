import Montage.Storage.FileTree
import Montage.Wire.Field
import Montage.Yaml.Document

/-!
# Configuration

The options of the program by section.  They come from a YAML document, then from the
environment, and then from overrides by key.
-/

namespace Montage

structure StorageConfig where
  uploadDirectory : String := "data/uploads"
  outputDirectory : String := "data/outputs"
  fontsDirectory : String := "fonts"
  deriving DecidableEq, Repr, Inhabited

structure RenderingConfig where
  maxConcurrent : Int := 1
  encoderThreads : Int := 0
  nice : Int := 10
  /-- Seconds after which a render is stopped; zero for no limit. -/
  timeout : Binary64 := .zero
  maxFinishedJobs : Int := 200
  deriving DecidableEq, Inhabited

/-- How outputs are encoded. -/
structure EncodingConfig where
  videoCodec : String := "libx264"
  preset : String := "veryfast"
  frameRate : Int := 30
  imageFrameRate : Int := 30
  pixelFormat : String := "yuv420p"
  profile : String := "main"
  level : String := "4.0"
  maxRate : String := "4M"
  bufferSize : String := "8M"
  audioCodec : String := "aac"
  audioBitrate : String := "192k"
  deriving DecidableEq, Repr, Inhabited

structure ProbeConfig where
  fallbackDuration : Binary64 := 5
  timeout : Int := 30
  parallelism : Int := 4
  deriving DecidableEq, Inhabited

structure FontsConfig where
  downloadOnStartup : Bool := false
  deriving DecidableEq, Repr, Inhabited

structure Config where
  storage : StorageConfig := {}
  rendering : RenderingConfig := {}
  encoding : EncodingConfig := {}
  probe : ProbeConfig := {}
  fonts : FontsConfig := {}
  deriving Inhabited

/-- Reasons why there is no configuration. -/
inductive ConfigError where
  | invalid (issues : List Wire.Issue)
  | fault (fault : Fault)
  deriving DecidableEq, Repr, Inhabited

namespace Config

open Wire

def storageReader (members : Members) : Checked StorageConfig :=
  let standard : StorageConfig := {}
  ((members.optional "upload_dir" Reader.text standard.uploadDirectory).map StorageConfig.mk
    |>.apply (members.optional "output_dir" Reader.text standard.outputDirectory))
    |>.apply (members.optional "fonts_dir" Reader.text standard.fontsDirectory)

def renderingReader (members : Members) : Checked RenderingConfig :=
  let standard : RenderingConfig := {}
  ((((members.optional "max_concurrent" (Reader.wholeFrom 1) standard.maxConcurrent).map
    RenderingConfig.mk
    |>.apply (members.optional "ffmpeg_threads" Reader.whole standard.encoderThreads))
    |>.apply (members.optional "nice" Reader.whole standard.nice))
    |>.apply (members.optional "render_timeout_seconds" Reader.number standard.timeout))
    |>.apply (members.optional "max_finished_jobs" Reader.whole standard.maxFinishedJobs)

def encodingReader (members : Members) : Checked EncodingConfig :=
  let standard : EncodingConfig := {}
  let text (name absent : String) := members.optional name Reader.text absent
  let whole (name : String) (absent : Int) := members.optional name Reader.whole absent
  ((((((((((text "video_codec" standard.videoCodec).map EncodingConfig.mk
    |>.apply (text "preset" standard.preset))
    |>.apply (whole "frame_rate" standard.frameRate))
    |>.apply (whole "image_frame_rate" standard.imageFrameRate))
    |>.apply (text "pix_fmt" standard.pixelFormat))
    |>.apply (text "profile" standard.profile))
    |>.apply (text "level" standard.level))
    |>.apply (text "maxrate" standard.maxRate))
    |>.apply (text "bufsize" standard.bufferSize))
    |>.apply (text "audio_codec" standard.audioCodec))
    |>.apply (text "audio_bitrate" standard.audioBitrate)

def probeReader (members : Members) : Checked ProbeConfig :=
  let standard : ProbeConfig := {}
  ((members.optional "fallback_duration" (Reader.positive Reader.number)
      standard.fallbackDuration).map ProbeConfig.mk
    |>.apply (members.optional "timeout" Reader.whole standard.timeout))
    |>.apply (members.optional "parallelism" (Reader.wholeFrom 1) standard.parallelism)

def fontsReader (members : Members) : Checked FontsConfig :=
  let standard : FontsConfig := {}
  (members.optional "download_on_startup" Reader.flag standard.downloadOnStartup).map
    FontsConfig.mk

def sectionReader {α : Type} (name : String) (reader : Members → Checked α) : Reader α
  | .object members => reader members
  | _ => .refuse s!"Input should be a valid dictionary or instance of {name}"

def read (members : Members) : Checked Config :=
  ((((members.optional "storage" (sectionReader "StorageConfig" storageReader) {}).map
    Config.mk
    |>.apply (members.optional "rendering"
      (sectionReader "RenderingConfig" renderingReader) {}))
    |>.apply (members.optional "encoding"
      (sectionReader "EncodingConfig" encodingReader) {}))
    |>.apply (members.optional "probe" (sectionReader "ProbeConfig" probeReader) {}))
    |>.apply (members.optional "fonts" (sectionReader "FontsConfig" fontsReader) {})

def ofMembers (members : Members) : Except ConfigError Config :=
  match read members with
  | .valid config => .ok config
  | .refused issues => .error (.invalid issues)

def toMembers (config : Config) : Members := [
  ("storage", .object [
    ("upload_dir", .text config.storage.uploadDirectory),
    ("output_dir", .text config.storage.outputDirectory),
    ("fonts_dir", .text config.storage.fontsDirectory)]),
  ("rendering", .object [
    ("max_concurrent", .integer config.rendering.maxConcurrent),
    ("ffmpeg_threads", .integer config.rendering.encoderThreads),
    ("nice", .integer config.rendering.nice),
    ("render_timeout_seconds", .number config.rendering.timeout),
    ("max_finished_jobs", .integer config.rendering.maxFinishedJobs)]),
  ("encoding", .object [
    ("video_codec", .text config.encoding.videoCodec),
    ("preset", .text config.encoding.preset),
    ("frame_rate", .integer config.encoding.frameRate),
    ("image_frame_rate", .integer config.encoding.imageFrameRate),
    ("pix_fmt", .text config.encoding.pixelFormat),
    ("profile", .text config.encoding.profile),
    ("level", .text config.encoding.level),
    ("maxrate", .text config.encoding.maxRate),
    ("bufsize", .text config.encoding.bufferSize),
    ("audio_codec", .text config.encoding.audioCodec),
    ("audio_bitrate", .text config.encoding.audioBitrate)]),
  ("probe", .object [
    ("fallback_duration", .number config.probe.fallbackDuration),
    ("timeout", .integer config.probe.timeout),
    ("parallelism", .integer config.probe.parallelism)]),
  ("fonts", .object [
    ("download_on_startup", .boolean config.fonts.downloadOnStartup)])]

/-- A document with the value at a way of keys replaced. -/
def assign (document : Json) (way : List String) (value : Json) : Except Fault Json :=
  match way, document with
  | [], _ => .ok value
  | [key], .object members => .ok (.object (Json.setMember members key value))
  | [_], _ => .error (.wrongType "a value without keys")
  | key :: rest, .object members => do
      -- Objects are made where the way leads to nothing.
      let inner := (Json.member? members key).getD (.object [])
      let inner ← assign inner rest value
      .ok (.object (Json.setMember members key inner))
  | _, _ => .error .notARecord

/-- A document with overrides, whose keys are joined by dots.  Null overrides
nothing. -/
def override (document : Json) (overrides : List (String × Json)) :
    Except Fault Json :=
  overrides.foldlM (fun document (key, value) =>
    match value with
    | .null => .ok document
    | value => assign document (Text.split '.' key) value) document

def merge (config : Config) (overrides : List (String × Json)) :
    Except ConfigError Config :=
  match override (.object config.toMembers) overrides with
  | .ok (.object members) => ofMembers members
  | .ok _ => .error (.fault (.wrongType "a value without keys"))
  | .error fault => .error (.fault fault)

/-- How the text of an environment variable becomes a value. -/
inductive Cast where
  | whole
  | number
  | text
  deriving DecidableEq, Repr, Inhabited

def Cast.value (cast : Cast) (text : String) : Except Fault Json :=
  match cast with
  | .text => .ok (.text text)
  | .whole => match Numeral.readInt text.toList with
    | .ok value => .ok (.integer value)
    | .error .malformed => .error (.badNumeral text)
    | .error (.tooManyDigits count) => .error (.tooManyDigits count)
  | .number => match Numeral.binary64? text.toList with
    | some value => .ok (.number value)
    | none => .error .badValue

def environmentVariables : List (String × String × Cast) := [
  ("MAX_RENDER_JOBS", "rendering.max_concurrent", .whole),
  ("FFMPEG_THREADS", "rendering.ffmpeg_threads", .whole),
  ("MEDIA_NICE", "rendering.nice", .whole),
  ("RENDER_TIMEOUT", "rendering.render_timeout_seconds", .number),
  ("FFMUX_UPLOAD_DIR", "storage.upload_dir", .text),
  ("FFMUX_OUTPUT_DIR", "storage.output_dir", .text),
  ("FFMUX_FONTS_DIR", "storage.fonts_dir", .text)]

abbrev Environment := List (String × String)

/-- The overrides that an environment gives. -/
def environmentOverrides (environment : Environment) :
    Except Fault (List (String × Json)) :=
  -- Empty variables count as unset.
  (environmentVariables.filterMap fun (name, key, cast) =>
    match environment.lookup name with
    | some text => if text.isEmpty then none else some (key, cast, text)
    | none => none).mapM fun (key, cast, text) => do
      let value ← cast.value text
      .ok (key, value)

def withEnvironment (config : Config) (environment : Environment) :
    Except ConfigError Config :=
  match environmentOverrides environment with
  | .error fault => .error (.fault fault)
  | .ok [] => .ok config
  | .ok overrides => config.merge overrides

def ofText (text : String) : Except ConfigError Config := do
  let members ← (Yaml.readMembers text).mapError .fault
  ofMembers members

def fileNames : List String := ["config.yaml", "config.yml", "ffmux.yaml"]

/-- The document to be read: the one asked for, or the first that exists or cannot be
looked up. -/
def documentPath? (tree : FileTree) (directory : Path) (environment : Environment)
    (requested : Option String) : Option Path :=
  match requested with
  | some name => some (Path.resolve directory (Path.ofString name))
  | none =>
      let named := ((environment.lookup "FFMUX_CONFIG").filter fun name => !name.isEmpty)
      ((named.toList ++ fileNames).map fun name =>
        Path.resolve directory (Path.ofString name)).find? fun path =>
          tree.hasEntry path || tree.refuses path

def load (tree : FileTree) (directory : Path) (environment : Environment)
    (requested : Option String) : Except ConfigError Config := do
  let config ← match documentPath? tree directory environment requested with
    | none => .ok {}
    | some path =>
        match tree.content? path with
        | some text => ofText text
        | none =>
            if tree.isDirectory path then .error (.fault .directory)
            else if tree.refuses path then .error (.fault .system)
            else .ok {}
  config.withEnvironment environment

def defaultDocument : String := Text.join "\n" [
  "# ffmux configuration",
  "",
  "storage:",
  "  upload_dir: data/uploads     # Env: FFMUX_UPLOAD_DIR",
  "  output_dir: data/outputs     # Env: FFMUX_OUTPUT_DIR",
  "  fonts_dir: fonts             # Env: FFMUX_FONTS_DIR",
  "",
  "rendering:",
  "  max_concurrent: 1            # Max parallel ffmpeg renders, others wait. Env: MAX_RENDER_JOBS",
  "  ffmpeg_threads: 0            # 0 = ffmpeg default. Env: FFMPEG_THREADS",
  "  nice: 10                     # Process priority 0-19 (Linux only). Env: MEDIA_NICE",
  "  render_timeout_seconds: 0    # 0 = no timeout. Env: RENDER_TIMEOUT",
  "  max_finished_jobs: 200",
  "",
  "encoding:",
  "  video_codec: libx264",
  "  preset: veryfast",
  "  frame_rate: 30",
  "  image_frame_rate: 30         # still images are looped at this rate",
  "  pix_fmt: yuv420p",
  "  profile: main",
  "  level: \"4.0\"",
  "  maxrate: 4M",
  "  bufsize: 8M",
  "  audio_codec: aac",
  "  audio_bitrate: 192k",
  "",
  "probe:",
  "  fallback_duration: 5.0       # used when ffprobe fails",
  "  timeout: 30",
  "  parallelism: 4",
  "",
  "fonts:",
  "  download_on_startup: false",
  ""]

end Config

end Montage
