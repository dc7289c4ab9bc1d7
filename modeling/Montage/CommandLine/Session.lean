import Montage.CommandLine.Command
import Montage.Config
import Montage.Console.Symbols
import Montage.Dependencies
import Montage.Document.Composition
import Montage.Encode.Execution
import Montage.Json.Writer
import Montage.Json.Reader
import Montage.Render.Remarks
import Montage.Text.ShellWord
import Montage.Wire.RenderRequest

/-!
# Command sessions

What each command does in a working directory: what it says and prints, the files it
leaves, and its exit code.
-/

namespace Montage.CommandLine

/-- Where a command is run. -/
structure Session where
  tree : FileTree
  directory : Path
  environment : Config.Environment := []
  workplace : Encode.Workplace := {}
  probe : Path → ToolRun
  version : String → ToolRun
  encoder : Encode.Behavior
  download : FileTree → Path → FileTree × Except Fonts.DownloadError (List String)
  input : List String := []

/-- Addresses and options with which the server is started. -/
structure ServerStart where
  host : String
  port : Int
  reload : Bool
  deriving DecidableEq, Repr, Inhabited

/-- What a command leaves behind. -/
structure Outcome where
  exitCode : Nat
  tree : FileTree
  said : List Remark := []
  printed : String := ""
  /-- The configuration of the encoder that was put into force before anything was
  said. -/
  configured : Option RenderingConfig := none
  served : Option ServerStart := none
  deriving Inhabited

namespace Session

def locate (session : Session) (path : Path) : Path :=
  Path.resolve session.directory path

def succeed (session : Session) (said : List Remark) : Outcome :=
  { exitCode := 0, tree := session.tree, said }

def fail (session : Session) (said : List Remark) : Outcome :=
  { exitCode := 1, tree := session.tree, said }

def misuse (session : Session) : Outcome :=
  { exitCode := 2, tree := session.tree }

def configuration (session : Session) (name : Option String) (output : Option Path) :
    Except ConfigError Config := do
  let config ← Config.load session.tree session.directory session.environment name
  match output with
  | none => .ok config
  | some path => config.merge [("storage.output_dir", .text path.toString)]

def requestRemark (complaint : String) : Remark :=
  ⟨.error, "Invalid render spec: " ++ complaint⟩

def issueCount (issues : List Wire.Issue) : String :=
  let number := Decimal.ofInt issues.length
  let noun := if issues.length = 1 then " validation error" else " validation errors"
  number ++ noun ++ " for RenderRequest"

/-- The composition that a file asks for, or what is said instead. -/
def specification (session : Session) (request : Path) :
    Except (List Remark) RenderSpec :=
  let unreadable : List Remark := [⟨.error, "Cannot read " ++ request.toString⟩]
  match session.tree.content? (session.locate request) with
  | none => .error unreadable
  | some text =>
      match Json.read text with
      | .error (.unreadableJson _) => .error unreadable
      -- Any other fault ends the command without a word.
      | .error _ => .error []
      | .ok document =>
          match Wire.RenderRequest.specOf document with
          | .ok spec => .ok spec
          | .error (.invalid issues) => .error [requestRemark (issueCount issues)]
          | .error (.rejected reason) => .error [requestRemark reason.message]

/-- Where the assets of a directory are found.  A name that leads out of the directory
finds nothing. -/
def assets (session : Session) (directory : Path) : AssetLookup := fun filename =>
  let base := session.locate directory
  let path := Path.resolve base (Path.ofString filename)
  if (Path.ofString filename).holdsNull then
    .error (.fault .nullInPath)
  else if ¬ path.isBelow base then .error (.rejected (.fileNotFound filename))
  else if session.tree.refuses path then .error (.fault .system)
  else if session.tree.isFile path then .ok path
  else .error (.rejected (.fileNotFound filename))

def outputName : String := "out-1"

def plan (session : Session) (verbosity : Console.Verbosity) (config : Config)
    (compilation : Compilation) (spec : RenderSpec) :
    String × Except PlanError RenderPlan :=
  let prober : Prober := fun path =>
    ProbeTool.interpret path (.integer config.probe.timeout) (session.probe path)
  Render.compileAloud verbosity config (session.assets compilation.assets) prober
    (Path.ofString config.storage.outputDirectory) outputName spec

/-- The outcome of a compilation without plan.  Faults end a command without a word. -/
def failPlan (session : Session) : PlanError → Outcome
  | .fault _ => session.fail []
  | reason => session.fail [⟨.error, reason.message⟩]

def timelineDocument (timeline : ResolvedTimeline) : Json :=
  .object [
    ("total_duration", .number timeline.totalDuration),
    ("items", .array (timeline.items.map fun item => .object [
      ("type", .text item.item.kindName),
      ("start", .number item.start),
      ("duration", .number item.duration),
      ("path", Document.ofText? (item.path.map Path.toString))]))]

/-- A command as it is printed, ready for a shell.  It stays on one line. -/
def printedCommand (command : List String) : String :=
  let text := Console.Symbols.replace (Text.ShellWord.join command)
  Console.Styled.printWide ⟨Console.Layout.printable text.toList, []⟩ ++ "\n"

/-- The command that prints the encoder command of a render request. -/
def compile (session : Session) (compilation : Compilation) : Outcome :=
  let verbosity := if compilation.verbose then .verbose else .silent
  match session.configuration compilation.config compilation.output with
  | .error _ => session.fail []
  | .ok config =>
      match session.specification compilation.request with
      | .error said => session.fail said
      | .ok spec =>
          match session.plan verbosity config compilation spec with
          | (printed, .error reason) => { session.failPlan reason with printed }
          | (printed, .ok plan) =>
              let document := if compilation.verbose then
                Json.Indented.write 0 (timelineDocument plan.timeline) ++ "\n" else ""
              { session.succeed [] with
                printed := printed ++ document ++ printedCommand plan.command }

def failEncode (session : Session) (said : List Remark) :
    Encode.EncodeError → Outcome
  | .failed (.stopped reason) => session.fail (said ++ [⟨.warning, reason.message⟩])
  | .failed (.encode message) =>
      session.fail (said ++ [⟨.error, "Render failed:\n" ++ message⟩])
  | .fault _ => session.fail said

def encode (session : Session) (verbosity : Console.Verbosity) (plan : RenderPlan) :
    Outcome :=
  let count := Decimal.ofInt plan.timeline.items.length
  let duration := Decimal.fixedText 1 plan.timeline.totalDuration
  let said := [⟨.info, "Rendering " ++ count ++ " items, " ++ duration ++ "s"⟩]
  let path := session.locate plan.output
  match session.tree.makeDirectory path.parent with
  | .error _ => session.fail said
  | .ok tree =>
      let invocation : Encode.Invocation :=
        ⟨plan.command, plan.output, "render", verbosity⟩
      let (aftermath, result) := Encode.execute (fun _ percent => percent)
        plan.timeline.totalDuration session.workplace invocation session.encoder
        ⟨0, tree.content? path, false⟩ .empty
      let session := { session with tree := tree.update path aftermath.course.output }
      match result with
      | .error reason => session.failEncode said reason
      | .ok output =>
          session.succeed (said ++ [⟨.success, "Rendered: " ++ output.toString⟩])

def configureEncoder (session : Session) (rendering : RenderingConfig) : Session :=
  let settings := session.workplace.settings.configure
    (session.environment.map (·.1)) rendering.encoderThreads rendering.nice
  { session with workplace := { session.workplace with settings } }

def render (session : Session) (compilation : Compilation) : Outcome :=
  let verbosity := if compilation.verbose then .verbose else .normal
  match session.configuration compilation.config compilation.output with
  | .error _ => session.fail []
  | .ok config =>
      let session := session.configureEncoder config.rendering
      let outcome := match session.specification compilation.request with
        | .error said => session.fail said
        | .ok spec =>
            match session.plan verbosity config compilation spec with
            | (_, .error reason) => session.failPlan reason
            | (_, .ok plan) => session.encode verbosity plan
      { outcome with configured := some config.rendering }

def dependencies (session : Session) (config : Config) :
    Except Fault (List Dependency) := do
  let directory := session.locate (Path.ofString config.storage.fontsDirectory)
  let _ ← Fonts.lookUp session.tree directory
  let dependencies := Dependency.all session.workplace.host.tools session.version
    session.tree directory config.storage.fontsDirectory
  let _ ← (Dependency.detailLines dependencies).mapError Console.MarkupError.fault
  .ok dependencies

/-- The command that checks for the encoder, the probing tool and the fonts. -/
def check (session : Session) (name : Option String) : Outcome :=
  let needed : Except Fault Bool := do
    let .ok config := session.configuration name none | .error .badValue
    let dependencies ← session.dependencies config
    -- The fonts may be missing.
    .ok (dependencies.all fun dependency =>
      dependency.available || !Dependency.tools.contains dependency.name)
  match needed with
  | .ok true => session.succeed []
  | _ => session.fail []

def fonts (session : Session) (name : Option String) : Outcome :=
  match session.configuration name none with
  | .error _ => session.fail []
  | .ok config =>
      let directory := config.storage.fontsDirectory
      let (tree, result) :=
        session.download session.tree (session.locate (Path.ofString directory))
      let session := { session with tree }
      match result with
      | .error _ => session.fail []
      | .ok fetched =>
          let count := Decimal.ofInt fetched.length
          session.succeed
            [⟨.success, "Fonts ready in " ++ directory ++ " (" ++ count ++ " downloaded)"⟩]

/-- The lines of what is typed in.  The last one need not be ended. -/
def typedLines (text : String) : List String :=
  let lines := Text.split '\n' (String.ofList (Text.withLineFeeds text.toList))
  if lines.getLast? = some "" then lines.dropLast else lines

/-- The answer to a question that is asked until it is answered with yes or no. -/
def confirmed? : List String → Option Bool
  | [] => none
  | line :: rest =>
      -- An empty line takes the standard answer.
      if line.isEmpty then some false
      else match Text.lowercase (Text.trim line) with
        | "y" => some true
        | "n" => some false
        | _ => confirmed? rest

def configName : String := "config.yaml"

def writeConfig (session : Session) : Outcome :=
  let path := session.locate (Path.ofString configName)
  if session.tree.isDirectory path then session.fail []
  else
    let tree := session.tree.write path Config.defaultDocument
    { session with tree }.succeed [⟨.success, "Created " ++ configName⟩]

/-- The command that writes the standard configuration.  One that exists is only
replaced if that is confirmed. -/
def init (session : Session) : Outcome :=
  if session.tree.hasEntry (session.locate (Path.ofString configName)) then
    match confirmed? session.input with
    | none => session.fail []
    | some false => session.succeed []
    | some true => session.writeConfig
  else session.writeConfig

def runCommand (session : Session) : Command → Outcome
  | .serve host port reload =>
      { session.succeed [] with served := some ⟨host, port, reload⟩ }
  | .check config => session.check config
  | .fonts config => session.fonts config
  | .init => session.init
  | .compile compilation => session.compile compilation
  | .render compilation _ => session.render compilation

def run (session : Session) (arguments : List String) : Outcome :=
  match usage arguments with
  | .run command => session.runCommand command
  | .help => session.succeed []
  | .misuse => session.misuse

end Session

end Montage.CommandLine
