import Montage.Config
import Montage.Console.Journal
import Montage.Dependencies
import Montage.Document.Status
import Montage.Jobs.Queue
import Montage.Render.Remarks
import Montage.Server.Endpoint
import Montage.Server.Request
import Montage.Wire.RenderRequest

/-!
# The render server

The state of the server, and how each request changes it.  A render request that is
turned down leaves the queue and the files as they were.
-/

namespace Montage.Server

/-- What the tools of the system answer. -/
structure Tools where
  probe : Path → ToolRun
  version : String → ToolRun

structure Service where
  queue : Jobs.Queue
  premises : Jobs.Premises
  store : AssetStore
  settings : Media.Settings
  host : Media.Host
  invented : Nat := 0
  deriving Inhabited

namespace Service

def startTime : Binary64 := 1000

/-- The tree with a place for the fonts, if they are to be downloaded.  Whether they are
does not matter to the server. -/
def prepareFonts (config : Config) (directory : Path) (tree : FileTree) :
    Except Fault FileTree :=
  if config.fonts.downloadOnStartup then tree.makeDirectory directory else .ok tree

def dependencyRemarks (host : Media.Host) (tools : Tools) (tree : FileTree)
    (fonts : Path) (text : String) : Except Fault (List Remark) := do
  let _ ← Fonts.lookUp tree fonts
  let dependencies := Dependency.all host.tools tools.version tree fonts text
  .ok (dependencies.map fun dependency =>
    let (level, message) := dependency.remark false
    ⟨level, message⟩)

def readyRemark (store : AssetStore) (config : Config) : Remark :=
  let uploads := store.uploads.toString
  let outputs := store.outputs.toString
  let slots := Decimal.ofInt config.rendering.maxConcurrent
  ⟨.success, s!"Server ready: uploads={uploads} outputs={outputs} max_concurrent={slots}"⟩

/-- Remarks on the console of the server, up to the first one that it cannot print. -/
def announceAll (remarks : List Remark) : Except Fault Unit :=
  remarks.forM fun remark => Console.announce .normal remark.level remark.message

/-- The files of a server with its directories, after all that is said while it starts. -/
def prepare (config : Config) (store : AssetStore) (host : Media.Host) (tools : Tools)
    (tree : FileTree) : Except Fault FileTree := do
  let text := config.storage.fontsDirectory
  let fonts := Path.resolve store.workingDirectory (Path.ofString text)
  let tree ← prepareFonts config fonts tree
  announceAll (← dependencyRemarks host tools tree fonts text)
  let tree ← store.prepare tree
  announceAll [readyRemark store config]
  .ok tree

/-- The server of a working directory, under the configuration found there. -/
def start (tree : FileTree) (directory : Path) (environment : Config.Environment)
    (settings : Media.Settings) (host : Media.Host) (tools : Tools) :
    Except ConfigError Service := do
  let config ← Config.load tree directory environment none
  let storage := config.storage
  let rendering := config.rendering
  let store : AssetStore :=
    ⟨directory, Path.ofString storage.uploadDirectory,
      Path.ofString storage.outputDirectory⟩
  let tree ← (prepare config store host tools tree).mapError .fault
  let registry := Jobs.Registry.start rendering.maxConcurrent rendering.maxFinishedJobs
    startTime
  .ok {
    queue := .start config registry (store.base .outputs)
    premises := { tree }
    store
    settings := settings.configure (environment.map (·.1)) rendering.encoderThreads
      rendering.nice
    host }

def registry (service : Service) : Jobs.Registry := service.queue.registry

def alter (service : Service) (change : Jobs.Registry → Jobs.Registry) : Service :=
  { service with queue := service.queue.alter change }

def tick (service : Service) (seconds : Binary64) : Service :=
  service.alter (·.tick seconds)

def withTree (service : Service) (tree : FileTree) : Service :=
  { service with premises := { service.premises with tree } }

def equipment (service : Service) : Jobs.Equipment :=
  ⟨.normal, ⟨service.settings, service.host⟩⟩

def runNext (service : Service) (encoder : Except Fault Encode.Behavior) :
    Service × Jobs.Attempt :=
  let (queue, premises, attempt) :=
    service.queue.runNext service.equipment encoder service.premises
  ({ service with queue, premises }, attempt)

def health (tools : Tools) (service : Service) : Response :=
  let isAvailable (tool : String) : Json :=
    .boolean (Dependency.tool service.host.tools tools.version tool).available
  let media := service.premises.processes.document service.settings
  .success [
    ("status", .text "ok"),
    ("version", .text "1.0.0"),
    ("ffmpeg", isAvailable "ffmpeg"),
    ("ffprobe", isAvailable "ffprobe"),
    ("queue", .object (service.registry.occupancy.members ++ [("media", media)]))]

def subscribe (service : Service) : Service × Response :=
  let (feed, number) := service.registry.feed.subscribe
  (service.alter fun registry => { registry with feed }, .stream number)

def upload (service : Service) (upload : Upload) : Service × Response :=
  if upload.filename.isEmpty then (service, .refusal 400 "No file uploaded")
  else match service.store.save service.premises.tree upload.filename upload.content with
    | .error _ => (service, .broken)
    | .ok (tree, path) =>
        (service.withTree tree, .success [
          ("filename", .text path.name),
          ("size", Document.ofCount upload.content.utf8ByteSize),
          ("mimetype", .text upload.mediaType)])

def fileDocument (file : StoredFile) : Json :=
  .object [
    ("filename", .text file.filename),
    ("size", Document.ofCount file.size),
    ("extension", .text file.extension),
    ("path", .text file.path.toString)]

def listing (service : Service) (area : Area) (search extension : String) : Response :=
  let files := service.store.list service.premises.tree area search extension
  .success [
    ("total", Document.ofCount files.length),
    ("files", .array (files.map fileDocument))]

def deletionRefusal : StoreError → Response
  | .rejected reason => .refusal 400 reason.message
  | .missing _ => .refusal 404 "File not found"
  | .inUse filename job => .refusal 409 (StoreError.inUse filename job).message
  | .fault _ => .broken

/-- The tree without a file that no unsettled job uses. -/
def deleted (service : Service) (area : Area) (filename : String) :
    Except StoreError FileTree := do
  let inUse ← (service.registry.pathsInUse service.store.workingDirectory).mapError .fault
  let (tree, _) ← service.store.delete service.premises.tree area filename inUse
  .ok tree

/-- A file is deleted, unless an unsettled job uses it. -/
def deleteFile (service : Service) (area : Area) (filename : String) :
    Service × Response :=
  if filename.isEmpty then
    (service, .refusal 400 "Filename is required in request body")
  else
    match service.deleted area filename with
    | .error reason => (service, deletionRefusal reason)
    | .ok tree =>
        (service.withTree tree, .success [
          ("message", .text "File deleted successfully"),
          ("filename", .text filename)])

/-- The file that the body of a deletion names.  No name is an empty one. -/
def deletedName? : Option Json → Option String
  | some (.object members) =>
      match Json.member? members "filename" with
      | none => some ""
      | some (.text filename) => some filename
      | some _ => none
  | _ => none

def output (service : Service) (request : Request) (filename : String) : Response :=
  match service.store.pathIn .outputs filename with
  | .error (.fault _) => .broken
  | .error _ => .refusal 400 "Invalid filename"
  | .ok path =>
      if service.premises.tree.refuses path then .broken
      else match service.premises.tree.content? path with
        | some content => .ofFile request path.name content
        | none => .refusal 404 "File not found"

def assets (service : Service) : AssetLookup := fun filename =>
  (service.store.locate service.premises.tree filename).mapError fun reason =>
    match reason with
    | .rejected reason => .rejected reason
    | .fault cause => .fault cause
    | .missing _ => .rejected (.fileNotFound filename)
    | .inUse _ _ => .rejected (.fileNotFound filename)

def recordProbes (tools : Tools) (service : Service) (paths : List Path) : Service :=
  let processes := paths.foldl (fun processes path =>
    let code := match tools.probe path with
      | .exited code _ => code
      | .notStarted => -1
      | .timedOut => -1
    processes.run "ffprobe" ("probe " ++ path.name) code "") service.premises.processes
  { service with premises := { service.premises with processes } }

def reject (service : Service) (reason : Rejection) : Service × Response :=
  match Console.announce .normal .warning
      ("[render] Rejected request: " ++ reason.message) with
  | .ok () => (service, .refusal 400 reason.message)
  | .error _ => (service, .broken)

/-- A render request becomes a job once everything in it has a place in time. -/
def render (tools : Tools) (service : Service) (body : Json) : Service × Response :=
  match Wire.RenderRequest.specOf body with
  | .error (.invalid issues) => (service, .refusal 400 (Wire.Issue.listing issues))
  | .error (.rejected reason) => service.reject reason
  | .ok spec =>
      let limit : Json := .integer service.queue.config.probe.timeout
      let prober : Prober := fun path => ProbeTool.interpret path limit (tools.probe path)
      let (cache, _, result) := Render.resolveAloud .normal service.queue.config
        service.assets prober spec
      let service := service.recordProbes tools cache.asked
      match result with
      | .error (.rejected reason) => service.reject reason
      | .error (.fault _) => (service, .broken)
      | .ok timeline =>
          let (queue, id) := service.queue.submit spec timeline
          ({ service with queue }, .success [
            ("jobId", .text id),
            ("status", .text Jobs.State.processing.name)])

def statusOf (service : Service) (job : Jobs.Job) : Response :=
  match job.status service.registry.clock with
  | .ok status => .document 200 status.document
  | .error _ => .broken

def status (service : Service) (id : String) : Response :=
  match service.registry.get id with
  | .ok job => service.statusOf job
  | .error _ => .refusal 404 "Job not found"

def download (service : Service) (request : Request) (id : String) : Response :=
  let found := do
    let job ← service.registry.find? id
    let path ← job.output
    let resolved := Path.resolve service.store.workingDirectory path
    let content ← service.premises.tree.content? resolved
    some (path.name, content)
  match found with
  | some (name, content) => .ofFile request name content
  | none => .refusal 404 "Output not found"

def cancel (service : Service) (id : String) : Service × Response :=
  match service.registry.cancel id with
  | .error _ => (service, .refusal 404 "Job not found")
  | .ok registry =>
      let service := service.alter fun _ => registry
      (service, service.status id)

def respond (tools : Tools) (service : Service) (request : Request) :
    Endpoint → Service × Response
  | .health => (service, service.health tools)
  | .events => service.subscribe
  | .upload =>
      match request.upload? with
      | .ok (some file) => service.upload file
      | .ok none => (service, .unprocessable)
      | .error reason => (service, .refusal 400 reason.message)
  | .listing area =>
      (service, service.listing area (request.parameter "search")
        (request.parameter "extension"))
  | .deletion area =>
      match deletedName? request.document? with
      | some filename => service.deleteFile area filename
      | none => (service, .unprocessable)
  | .output filename => (service, service.output request filename)
  | .render =>
      match request.document? with
      | some (.object members) => service.render tools (.object members)
      | _ => (service, .unprocessable)
  | .status job => (service, service.status job)
  | .download job => (service, service.download request job)
  | .cancellation job => service.cancel job

/-- The identifier of a request. -/
def identify (service : Service) (request : Request) : Service × String :=
  -- A request that comes without one gets the next of the made-up identifiers.
  if request.id.isEmpty then
    let number := service.invented + 1
    ({ service with invented := number }, Console.Journal.inventedRequest number)
  else (service, request.id)

/-- The response to a request. -/
def answer (tools : Tools) (service : Service) (request : Request) :
    Service × Response :=
  -- Other origins that ask for leave are answered before anything else.
  match request.announcedMethod? with
  | some method => (service, .leave method)
  | none =>
      match Endpoint.route request.method request.path with
      | .unknown => (service, .refusal 404 "Not Found")
      | .wrongMethod => (service, .refusal 405 "Method Not Allowed")
      | .found endpoint => service.respond tools request endpoint

def reply (tools : Tools) (service : Service) (request : Request) : Service × Reply :=
  let (service, id) := service.identify request
  match service.answer tools request with
  | (service, .broken) => (service, ⟨none, .broken⟩)
  | (service, response) => (service, ⟨some id, response.forMethod request.method⟩)

end Service

end Montage.Server
